import DocTidy.Document.Reader
import DocTidy.Proofs.Run
import DocTidy.Proofs.Text.Ink

/-!
# The ink of what is read

Reading lines as the contents of a section may drop some ink, but never adds any.
-/

namespace DocTidy

open Text

variable {s t : Text} {ls : List Text}

def Param.ink (p : Param) : Nat := Text.ink p.name + Text.ink p.type + inkOf p.desc

def LinkName.ink (n : LinkName) : Nat := Text.ink n.name + Text.ink (n.role.getD [])

def Link.ink (l : Link) : Nat := (l.names.map LinkName.ink).sum + inkOf l.desc

/-- How much ink there is in the contents of a section. -/
def Content.ink : Content → Nat
  | .text t => Text.ink t
  | .lines ls => inkOf ls
  | .params ps => (ps.map Param.ink).sum
  | .links ls => (ls.map Link.ink).sum
  | .data _ => 0

theorem Content.ink_eq_zero {c : Content} (h : c.isEmpty = true) : c.ink = 0 := by
  cases c with
  | text t => rw [List.isEmpty_iff.mp h]; rfl
  | lines ls => rw [List.isEmpty_iff.mp h]; rfl
  | params ps => rw [List.isEmpty_iff.mp h]; rfl
  | links ls => rw [List.isEmpty_iff.mp h]; rfl
  | data v => rfl

/-! ## Parameters -/

theorem cutAt?_eq_some {part front rest : Text} (h : cutAt? part t = some (front, rest)) :
    t = front ++ part ++ rest := by
  induction t generalizing front rest with
  | nil =>
    unfold cutAt? at h
    split at h
    · rename_i hpart
      obtain ⟨rfl, rfl⟩ : [] = front ∧ [] = rest := by simpa using h
      rw [List.isEmpty_iff.mp hpart]
      rfl
    · cases h
  | cons c r ih =>
    unfold cutAt? at h
    split at h
    · rename_i hprefix
      obtain ⟨rfl, rfl⟩ : [] = front ∧ (c :: r).drop part.length = rest := by simpa using h
      obtain ⟨tail, htail⟩ := List.isPrefixOf_iff_prefix.mp hprefix
      rw [← htail, List.drop_left, List.nil_append]
    · obtain ⟨⟨front', rest'⟩, hcut, heq⟩ := Option.map_eq_some_iff.mp h
      obtain ⟨rfl, rfl⟩ : c :: front' = front ∧ rest' = rest := by simpa using heq
      rw [ih hcut]
      rfl

namespace Param

theorem ink_splitHead_le (soleType : Bool) (head : Text) :
    Text.ink (splitHead soleType head).1 + Text.ink (splitHead soleType head).2 ≤ Text.ink head := by
  unfold splitHead
  split
  · -- The separator is lost; it has no ink.
    rename_i name type hcut
    rw [cutAt?_eq_some hcut, ink_append, ink_append]
    dsimp only
    omega
  · have hword : Text.ink (if endsWith head " :" then head.take (head.length - 2) else head) ≤
        Text.ink head := by
      split
      · exact ink_le_of_sublist (List.take_sublist _ _)
      · exact Nat.le_refl _
    dsimp only
    split <;> simpa using hword

theorem ink_ofEntry_le (soleType : Bool) (entry : Text × List Text) :
    (ofEntry soleType entry).ink ≤ Text.ink entry.1 + inkOf entry.2 := by
  have hhead := ink_splitHead_le soleType (strip entry.1)
  have hdesc : inkOf ((trimBlankLines (dedentBody entry.2)).map stripRight) ≤ inkOf entry.2 := by
    rw [inkOf_map ink_stripRight, ← inkOf_dedentBody entry.2]
    apply inkOf_le_of_sublist
    unfold trimBlankLines
    have hleft := List.dropWhile_sublist (l := dedentBody entry.2) isBlank
    refine List.Sublist.trans ?_ hleft
    rw [← List.reverse_sublist, List.reverse_reverse]
    exact List.dropWhile_sublist isBlank
  rw [ink_strip] at hhead
  unfold ofEntry ink
  simp only [ink_strip]
  omega

/-- Nothing is lost when lines are cut into entries. -/
theorem flatMap_entries (ls : List Text) : (entries ls).flatMap (fun e => e.1 :: e.2) = ls := by
  cases ls with
  | nil => rfl
  | cons l rest =>
    rw [entries, List.flatMap_cons, List.flatMap_def, List.cons_append]
    exact congrArg _ (headedRuns_flatten isHead rest)

theorem ink_ofEntries_le (soleType : Bool) (entries : List (Text × List Text)) :
    ((entries.map (ofEntry soleType)).map ink).sum ≤ inkOf (entries.flatMap fun e => e.1 :: e.2) := by
  induction entries with
  | nil => exact Nat.le_refl _
  | cons e es ih =>
    have he := ink_ofEntry_le soleType e
    simp only [List.map_cons, List.sum_cons, List.flatMap_cons, List.cons_append, inkOf_cons,
      inkOf_append]
    omega

theorem ink_ofLines_le (soleType : Bool) (ls : List Text) :
    ((ofLines soleType ls).map ink).sum ≤ inkOf ls := by
  have h := ink_ofEntries_le soleType (entries (dedentBody ls))
  rwa [flatMap_entries, inkOf_dedentBody] at h

end Param

/-! ## Links -/

namespace Link

variable {n : LinkName} {rest : Text}

theorem run?_eq_some {p : Char → Bool} {word : Text} (h : run? p t = some (word, rest)) :
    t = word ++ rest := by
  unfold run? at h
  split at h
  · cases h
  · obtain ⟨rfl, rfl⟩ : t.takeWhile p = word ∧ t.dropWhile p = rest := by simpa using h
    exact List.takeWhile_append_dropWhile.symm

theorem closedWord?_eq_some {front role : Text} (h : closedWord? front t = some (role, rest)) :
    front ++ t = role ++ ':' :: rest := by
  unfold closedWord? at h
  split at h
  · rename_i word tail hrun
    obtain ⟨rfl, rfl⟩ : front ++ word = role ∧ tail = rest := by simpa using h
    rw [run?_eq_some hrun, List.append_assoc]
  · cases h

theorem role?_eq_some {role : Text} (h : role? t = some (role, rest)) : t = role ++ ':' :: rest := by
  unfold role? at h
  split at h
  · rename_i hpy
    obtain ⟨tail, htail⟩ := List.isPrefixOf_iff_prefix.mp hpy
    have hdrop : "py:".toList ++ t.drop 3 = t := by
      rw [← htail]
      rfl
    -- Without a word after the prefix, the prefix is taken for the word itself.
    cases hword : closedWord? "py:" (t.drop 3) with
    | some found =>
      rw [hword] at h
      rw [← hdrop, closedWord?_eq_some (hword.trans h)]
    | none =>
      rw [hword] at h
      exact closedWord?_eq_some h
  · exact closedWord?_eq_some h

theorem shortening_eq (t : Text) : t = (shortening t).1 ++ (shortening t).2 := by
  unfold shortening
  split
  · split
    · rename_i r word tail hrun
      rw [run?_eq_some hrun]
      simp
    · rfl
  · rfl

theorem tickedName?_eq_some {name : Text} (h : tickedName? t = some (name, rest)) :
    t = '\x60' :: (name ++ '\x60' :: rest) := by
  unfold tickedName? at h
  split at h
  · rename_i r
    dsimp only at h
    split at h
    · rename_i word tail hrun
      obtain ⟨rfl, rfl⟩ : (shortening r).1 ++ word = name ∧ tail = rest := by simpa using h
      rw [List.append_assoc, ← run?_eq_some hrun, ← shortening_eq]
    · cases h
  · cases h

/-- A name is read with its marks, and what follows it is left. -/
theorem ink_name?_le (h : name? t = some (n, rest)) : n.ink + Text.ink rest ≤ Text.ink t := by
  unfold name? at h
  split at h
  · rename_i r
    rw [Option.bind_eq_bind, Option.bind_eq_some_iff] at h
    obtain ⟨⟨role, r'⟩, hrole, h⟩ := h
    rw [Option.bind_eq_some_iff] at h
    obtain ⟨⟨name, rest'⟩, hname, h⟩ := h
    obtain ⟨rfl, rfl⟩ : (⟨name, some role⟩ : LinkName) = n ∧ rest' = rest := by simpa using h
    rw [role?_eq_some hrole, tickedName?_eq_some hname]
    simp only [LinkName.ink, Option.getD_some, ink_append, ink_cons]
    omega
  · rw [Option.bind_eq_bind, Option.bind_eq_some_iff] at h
    obtain ⟨⟨name, rest'⟩, hname, h⟩ := h
    obtain ⟨rfl, rfl⟩ : (⟨name, none⟩ : LinkName) = n ∧ rest' = rest := by simpa using h
    rw [run?_eq_some hname]
    simp [LinkName.ink]

theorem ink_moreNames_le (fuel : Nat) (t : Text) :
    ((moreNames fuel t).1.map LinkName.ink).sum + Text.ink (moreNames fuel t).2 ≤ Text.ink t := by
  induction fuel generalizing t with
  | zero => simp [moreNames]
  | succ fuel ih =>
    unfold moreNames
    split
    · rename_i c r
      split
      · split
        · rename_i n rest hname
          have hn := ink_name?_le hname
          have hrest := ih rest
          rw [ink_stripLeft] at hn
          simp only [List.map_cons, List.sum_cons]
          rw [ink_cons, ink_cons]
          omega
        · simp
      · simp
    · simp

theorem ink_description?_le {d : Option Text} (h : description? t = some d) :
    Text.ink (d.getD []) ≤ Text.ink t := by
  rw [← ink_stripLeft t]
  unfold description? at h
  split at h
  · rw [← Option.some.inj h]
    exact Nat.zero_le _
  · rename_i r hstripped
    have hr : Text.ink (stripLeft r) ≤ Text.ink (stripLeft t) := by
      rw [hstripped, ink_cons, ink_stripLeft]
      omega
    split at h
    · rw [← Option.some.inj h]
      exact Nat.zero_le _
    · split at h
      · rw [← Option.some.inj h]
        exact hr
      · cases h
  · cases h

theorem ink_line?_le {line : Text} {l : Line} (h : line? line = some l) :
    (l.names.map LinkName.ink).sum + Text.ink (l.description.getD []) ≤ Text.ink line := by
  unfold line? at h
  rw [Option.bind_eq_bind, Option.bind_eq_some_iff] at h
  obtain ⟨⟨first, rest⟩, hfirst, h⟩ := h
  have hname := ink_name?_le hfirst
  have hmore := ink_moreNames_le rest.length rest
  rw [ink_stripLeft] at hname
  dsimp only at h
  -- A comma or a full stop may stand between the names and the description.
  have hread {r : Text} {trailing : Option Nat}
      (hr : Text.ink r ≤ Text.ink (moreNames rest.length rest).2)
      (h : (description? r).bind (fun description => some
        (⟨first :: (moreNames rest.length rest).1, description, trailing⟩ : Line)) = some l) :
      (l.names.map LinkName.ink).sum + Text.ink (l.description.getD []) ≤ Text.ink line := by
    rw [Option.bind_eq_some_iff] at h
    obtain ⟨description, hdescription, h⟩ := h
    have := ink_description?_le hdescription
    rw [← Option.some.inj h]
    simp only [List.map_cons, List.sum_cons]
    omega
  split at h
  · rename_i r hrest
    refine hread ?_ h
    rw [hrest, ink_cons]
    omega
  · rename_i r hrest
    refine hread ?_ h
    rw [hrest, ink_cons]
    omega
  · exact hread (Nat.le_refl _) h

/-! ## Lines of links -/

theorem ink_describeLast_le (links : List Link) (line : Text) :
    ((describeLast links line).map ink).sum ≤ (links.map ink).sum + Text.ink line := by
  unfold describeLast
  split
  · simp
  · rename_i last hlast
    obtain ⟨front, rfl⟩ := List.getLast?_eq_some_iff.mp hlast
    simp [ink, inkOf_append]
    omega

theorem ink_addFound_le {links links' : List Link} {line : Text}
    (h : (addFound links line (line? line)).result = .ok links') :
    (links'.map ink).sum ≤ (links.map ink).sum + Text.ink line := by
  unfold addFound at h
  dsimp only at h
  split at h
  · rw [Run.result_pure, Except.ok.injEq] at h
    have := ink_describeLast_le links (strip line)
    rw [← h]
    rwa [ink_strip] at this
  · split at h
    · rename_i l hl
      rw [Run.result_pure, Except.ok.injEq] at h
      have := ink_line?_le hl
      rw [← h, hl]
      have hdesc : inkOf l.description.toList = Text.ink (l.description.getD []) := by
        cases l.description <;> simp
      simp only [Option.bind_some, List.map_append, List.sum_append, List.map_singleton,
        List.sum_singleton, ink, hdesc]
      omega
    · cases h

theorem ink_addLine_le {links links' : List Link} {line : Text}
    (h : (addLine links line).result = .ok links') :
    (links'.map ink).sum ≤ (links.map ink).sum + Text.ink line := by
  unfold addLine at h
  split at h
  · rw [Run.result_pure, Except.ok.injEq] at h
    rw [h]
    omega
  · dsimp only at h
    split at h
    · -- There is a warning before the line is taken up.
      obtain ⟨_, -, h⟩ := Run.result_bind_eq_ok.mp h
      exact ink_addFound_le h
    · exact ink_addFound_le h

theorem ink_foldlM_addLine_le {links links' : List Link}
    (h : (ls.foldlM addLine links).result = .ok links') :
    (links'.map ink).sum ≤ (links.map ink).sum + inkOf ls := by
  induction ls generalizing links with
  | nil =>
    rw [List.foldlM_nil, Run.result_pure, Except.ok.injEq] at h
    simp [h]
  | cons l ls ih =>
    rw [List.foldlM_cons, Run.result_bind_eq_ok] at h
    obtain ⟨next, hnext, h⟩ := h
    have hl := ink_addLine_le hnext
    have hls := ih h
    rw [inkOf_cons]
    omega

theorem ink_ofLines_le {links : List Link} (h : (ofLines ls).result = .ok links) :
    (links.map ink).sum ≤ inkOf ls := by
  have hall := ink_foldlM_addLine_le h
  rw [inkOf_dedentBody] at hall
  simpa using hall

end Link

namespace Document

/-- **Reading adds no ink.** -/
theorem ink_readContent_le {s : Section} {c : Content} (h : (readContent s ls).result = .ok c) :
    c.ink ≤ inkOf ls := by
  unfold readContent at h
  split at h
  · rw [Run.result_pure, Except.ok.injEq] at h
    rw [← h]
    exact Nat.le_refl _
  · rw [Run.result_pure, Except.ok.injEq] at h
    rw [← h]
    exact Param.ink_ofLines_le _ ls
  · rw [Run.result_bind_eq_ok] at h
    obtain ⟨links, hlinks, h⟩ := h
    rw [Run.result_pure, Except.ok.injEq] at h
    rw [← h]
    exact Link.ink_ofLines_le hlinks

end Document
end DocTidy
