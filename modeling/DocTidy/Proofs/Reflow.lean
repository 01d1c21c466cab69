import DocTidy.Proofs.Text.Margin
import DocTidy.Reflow
import Mathlib.Logic.Function.Iterate

/-!
# Refilling a refilled text

A refilled text has the words it was made from, with two exceptions: a word that is wider than a line
and stands first gets an empty word before it, and an empty word that ends up alone on the last line
is lost.  Neither can happen to the words that are read off a refilled text, so that two passes settle
every text.
-/

namespace DocTidy.Reflow

open Text

variable {t w : Text} {ws line : List Text} {lines : List (List Text)}

/-! ## Words -/

/-- A word holds neither a space nor a line boundary. -/
def IsWord (w : Text) : Prop := ' ' ∉ w ∧ IsUnbroken w

theorem isWord_of_mem_words (hw : w ∈ words t) : IsWord w := by
  obtain ⟨l, hl, hw⟩ := List.mem_flatMap.mp hw
  have hunbroken : IsUnbroken l := isUnbroken_of_mem_splitLines t l hl
  exact ⟨not_mem_of_mem_splitOn l w hw, fun c hc => hunbroken c (mem_of_mem_splitOn l w hw hc)⟩

/-- The words of a line with a space between them. -/
def joined (line : List Text) : Text := [' '].intercalate line

theorem isUnbroken_joined (hline : ∀ w ∈ line, IsWord w) : IsUnbroken (joined line) :=
  isUnbroken_intercalate (by decide) fun w hw => (hline w hw).2

/-- A line that holds a word shows as an empty one only if the word is empty and alone. -/
theorem joined_eq_nil_iff (hne : line ≠ []) : joined line = [] ↔ line = [[]] := by
  unfold joined
  cases line with
  | nil => exact absurd rfl hne
  | cons w ws =>
    cases ws with
    | nil => simp
    | cons v vs => simp [List.intercalate_cons_cons]

/-- Joined lines are found again, less an empty one at the end. -/
theorem splitLines_render (hwords : ∀ line ∈ lines, ∀ w ∈ line, IsWord w) : splitLines (render lines) =
    if (lines.map joined).getLast? = some [] then (lines.map joined).dropLast else lines.map joined := by
  refine splitLines_unlines fun l hl => ?_
  obtain ⟨line, hline, rfl⟩ := List.mem_map.mp hl
  exact isUnbroken_joined (hwords line hline)

theorem exists_of_mem_splitLines_render (hwords : ∀ line ∈ lines, ∀ w ∈ line, IsWord w) {l : Text}
    (hl : l ∈ splitLines (render lines)) : ∃ line ∈ lines, joined line = l := by
  rw [splitLines_render hwords] at hl
  rw [← List.mem_map]
  split at hl
  · exact List.dropLast_subset _ hl
  · exact hl

/-- The words of joined lines, none of which is without a word: only an empty word alone on the last
line is not found again. -/
theorem words_render (hne : [] ∉ lines) (hwords : ∀ line ∈ lines, ∀ w ∈ line, IsWord w) :
    words (render lines) =
      if lines.getLast? = some [[]] then lines.dropLast.flatten else lines.flatten := by
  have hlast : (lines.map joined).getLast? = some [] ↔ lines.getLast? = some [[]] := by
    rw [List.getLast?_map, Option.map_eq_some_iff]
    constructor
    · rintro ⟨line, hline, hnil⟩
      have hmem : line ≠ [] := fun h => hne (h ▸ List.mem_of_getLast? hline)
      rw [hline, (joined_eq_nil_iff hmem).mp hnil]
    · intro h
      exact ⟨[[]], h, rfl⟩
  -- Each line is cut into its words again.
  have hcut : ∀ ls : List (List Text), (∀ line ∈ ls, line ∈ lines) →
      (ls.map joined).flatMap (fun l => l.splitOn ' ') = ls.flatten := by
    intro ls hls
    rw [List.flatMap_map, List.flatten_eq_flatMap]
    refine List.flatMap_congr fun line hline => ?_
    have hmem : line ∈ lines := hls line hline
    exact List.splitOn_intercalate ' ' (fun w hw => (hwords line hmem w hw).1)
      fun h => hne (h ▸ hmem)
  unfold words
  rw [splitLines_render hwords]
  by_cases hempty : lines.getLast? = some [[]]
  · rw [if_pos (hlast.mpr hempty), if_pos hempty, ← List.map_dropLast]
    exact hcut _ fun line hline => List.dropLast_subset lines hline
  · rw [if_neg (mt hlast.mp hempty), if_neg hempty]
    exact hcut _ fun line hline => hline

/-! ## Filling -/

theorem flatten_fillFrom (line ws : List Text) : (fillFrom line ws).flatten = line ++ ws := by
  induction ws generalizing line with
  | nil =>
    rw [fillFrom]
    split
    · rename_i hempty
      rw [List.isEmpty_iff.mp hempty]
      rfl
    · simp
  | cons w ws ih =>
    rw [fillFrom]
    split
    · rw [List.flatten_cons, ih, List.singleton_append]
    · rw [ih, List.append_assoc, List.singleton_append]

theorem flatten_fill (ws : List Text) : (fill ws).flatten = ws := flatten_fillFrom [] ws

theorem not_mem_fillFrom (hline : line ≠ []) (ws : List Text) : [] ∉ fillFrom line ws := by
  induction ws generalizing line with
  | nil =>
    rw [fillFrom, if_neg (by simpa using hline), List.mem_singleton]
    exact hline.symm
  | cons w ws ih =>
    rw [fillFrom]
    split
    · rw [List.mem_cons, not_or]
      exact ⟨hline.symm, ih (List.cons_ne_nil w [])⟩
    · exact ih (List.append_ne_nil_of_right_ne_nil line (List.cons_ne_nil w []))

/-- One more word goes to the last line if there is room for it, and otherwise on a new line. -/
theorem fillFrom_concat (hline : line ≠ []) (ws : List Text) (w : Text) :
    ∃ front last, fillFrom line ws = front ++ [last] ∧
      fillFrom line (ws ++ [w]) = if width < room last + w.length then front ++ [last, [w]]
        else front ++ [last ++ [w]] := by
  induction ws generalizing line with
  | nil =>
    refine ⟨[], line, ?_, ?_⟩
    · rw [fillFrom, if_neg (by simpa using hline)]
      rfl
    · rw [List.nil_append, fillFrom]
      split
      · rfl
      · rw [fillFrom, if_neg (by simp)]
        rfl
  | cons v ws ih =>
    rw [List.cons_append, fillFrom, fillFrom]
    split
    · obtain ⟨front, last, hlines, hmore⟩ := ih (List.cons_ne_nil v [])
      refine ⟨line :: front, last, by rw [hlines]; rfl, ?_⟩
      rw [hmore]
      split
      · rfl
      · rfl
    · exact ih (List.append_ne_nil_of_right_ne_nil line (List.cons_ne_nil v []))

/-! ## Words that are read off a refilled text -/

/-- The first word is no wider than a line. -/
def StartsShort (ws : List Text) : Prop := ∀ w, ws.head? = some w → w.length ≤ width

theorem fill_cons (w : Text) (ws : List Text) :
    fill (w :: ws) = if width < w.length then [] :: fillFrom [w] ws else fillFrom [w] ws := by
  have hroom : room [] + w.length = w.length := Nat.zero_add _
  rw [fill, fillFrom, hroom]
  rfl

theorem fill_of_startsShort {w : Text} (h : StartsShort (w :: ws)) :
    fill (w :: ws) = fillFrom [w] ws := by
  have hw : w.length ≤ width := h w rfl
  rw [fill_cons, if_neg (by omega)]

theorem not_mem_fill (h : StartsShort ws) : [] ∉ fill ws := by
  cases ws with
  | nil => exact List.not_mem_nil
  | cons w ws =>
    rw [fill_of_startsShort h]
    exact not_mem_fillFrom (List.cons_ne_nil w []) ws

/-- The words with an empty one in front where the first is wider than a line. -/
def led : List Text → List Text
  | [] => []
  | w :: ws => if width < w.length then [] :: w :: ws else w :: ws

theorem startsShort_led (ws : List Text) : StartsShort (led ws) := by
  cases ws with
  | nil => simp [StartsShort, led]
  | cons w ws =>
    rw [led]
    split
    · simp [StartsShort]
    · simp only [StartsShort, List.head?_cons, Option.some.injEq]
      rintro _ rfl
      omega

theorem led_of_startsShort (h : StartsShort ws) : led ws = ws := by
  cases ws with
  | nil => rfl
  | cons w ws =>
    have hw : w.length ≤ width := h w rfl
    rw [led, if_neg (by omega)]

/-- The empty word takes the place of the line that was left without any. -/
theorem render_fill_led (ws : List Text) : render (fill (led ws)) = render (fill ws) := by
  cases ws with
  | nil => rfl
  | cons w ws =>
    by_cases hw : width < w.length
    · have hroom : width < room [[]] + w.length := Nat.lt_add_left _ hw
      have hled : fill ([] :: w :: ws) = [[]] :: fillFrom [w] ws := by
        rw [fill_cons, if_neg (by simp [width]), fillFrom, if_pos hroom]
      rw [led, if_pos hw, hled, fill_cons, if_pos hw]
      rfl
    · rw [led, if_neg hw]

/-- Above an empty word that is alone on the last line there is a full line, so that without the word
the last line is of another kind. -/
theorem getLast?_fill_dropLast (h : StartsShort ws) (hlast : (fill ws).getLast? = some [[]]) :
    (fill ws.dropLast).getLast? ≠ some [[]] := by
  cases ws with
  | nil => simp [fill, fillFrom] at hlast
  | cons w ws =>
    rw [fill_of_startsShort h] at hlast
    obtain rfl | ⟨us, u, rfl⟩ := List.eq_nil_or_concat ws
    · simp [fill, fillFrom]
    · rw [List.concat_eq_append] at hlast ⊢
      have hdrop : (w :: (us ++ [u])).dropLast = w :: us := by
        rw [← List.cons_append, List.dropLast_concat]
      have hshort : StartsShort (w :: us) := h
      obtain ⟨front, last, hlines, hmore⟩ := fillFrom_concat (List.cons_ne_nil w []) us u
      rw [hdrop, fill_of_startsShort hshort, hlines, List.getLast?_concat]
      rintro ⟨⟩
      -- With one empty word on it, the line above has room for another one.
      rw [hmore] at hlast
      split at hlast
      · rename_i hfull
        obtain rfl : u = [] := by simpa using hlast
        exact absurd hfull (by decide)
      · simp at hlast

/-- The words that are read off a text that was refilled from given words. -/
def settled (ws : List Text) : List Text :=
  if (fill (led ws)).getLast? = some [[]] then (led ws).dropLast else led ws

theorem isWord_led (hws : ∀ w ∈ ws, IsWord w) : ∀ w ∈ led ws, IsWord w := by
  have hempty : IsWord [] := ⟨List.not_mem_nil, fun c hc => by cases hc⟩
  cases ws with
  | nil => exact hws
  | cons w ws =>
    rw [led]
    split
    · intro v hv
      obtain rfl | hv := List.mem_cons.mp hv
      · exact hempty
      · exact hws v hv
    · exact hws

theorem words_render_fill (hws : ∀ w ∈ ws, IsWord w) : words (render (fill ws)) = settled ws := by
  have hflatten := flatten_fill (led ws)
  have hwords : ∀ line ∈ fill (led ws), ∀ w ∈ line, IsWord w := fun line hline w hw =>
    isWord_led hws w (hflatten ▸ List.mem_flatten.mpr ⟨line, hline, hw⟩)
  rw [← render_fill_led, words_render (not_mem_fill (startsShort_led ws)) hwords, settled]
  by_cases hlast : (fill (led ws)).getLast? = some [[]]
  · rw [if_pos hlast, if_pos hlast]
    -- The last line is the last word.
    obtain ⟨front, hfront⟩ := List.getLast?_eq_some_iff.mp hlast
    rw [hfront, List.flatten_append, List.flatten_singleton] at hflatten
    rw [hfront, List.dropLast_concat, ← hflatten, List.dropLast_concat]
  · rw [if_neg hlast, if_neg hlast, hflatten]

theorem settled_settled (ws : List Text) : settled (settled ws) = settled ws := by
  have hshort := startsShort_led ws
  by_cases hlast : (fill (led ws)).getLast? = some [[]]
  · have hdrop : StartsShort (led ws).dropLast := by
      intro w hw
      refine hshort w ?_
      rw [List.head?_dropLast] at hw
      split at hw
      · exact hw
      · cases hw
    have hsettled : settled ws = (led ws).dropLast := if_pos hlast
    rw [hsettled, settled, led_of_startsShort hdrop,
      if_neg (getLast?_fill_dropLast hshort hlast)]
  · have hsettled : settled ws = led ws := if_neg hlast
    rw [hsettled, settled, led_of_startsShort hshort, if_neg hlast]

/-! ## Passes -/

theorem words_pass (t : Text) : words (pass t) = settled (words t) :=
  words_render_fill fun _ => isWord_of_mem_words

/-- A third pass changes nothing. -/
theorem pass_reflow (t : Text) : pass (reflow t) = reflow t := by
  have hwords : words (reflow t) = words (pass t) := by
    rw [reflow, words_pass, words_pass, settled_settled]
  calc
    pass (reflow t) = render (fill (words (reflow t))) := rfl
    _ = render (fill (words (pass t))) := by rw [hwords]
    _ = reflow t := rfl

/-- **Two passes settle a text.**  A reflowed text is reflowed to itself, and any number of passes
from two on gives the same. -/
theorem reflow_settles (t : Text) :
    reflow (reflow t) = reflow t ∧ ∀ n, pass^[n + 2] t = reflow t := by
  constructor
  · rw [reflow, pass_reflow, pass_reflow]
  · intro n
    induction n with
    | zero => rfl
    | succ n ih => rw [Function.iterate_succ_apply', ih, pass_reflow]

end DocTidy.Reflow
