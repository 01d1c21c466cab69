import DocTidy.Proofs.Document.Reading

/-!
# The paragraphs before the first heading

A docstring opens with a signature, a summary and what follows it, and each of these may be missing.
`Opens` lists the forms that an opening can have and what is read of each; an opening of any other form
has two signatures and is refused (`opens_iff`).  A document that was read consists of what its opening
gives and of one entry for each heading (`Parts`).
-/

namespace DocTidy.Document

open Text

variable {headed : Bool} {front : List (List Text)} {es : List (Section × Content)}

/-- The entries of a summary and of the paragraphs below it. -/
def summaryEntries (headed : Bool) (p : List Text) (rest : List (List Text)) : List (Section × Content) :=
  (.summary, .lines p) ::
    if rest.isEmpty && headed then [] else [(.extendedSummary, .lines (joinParagraphs rest))]

/-- What an opening is read as, by the form that it has. -/
inductive Opens (headed : Bool) : List (List Text) → List (Section × Content) → Prop
  | nothing (hheaded : headed = true) : Opens headed [] []
  | empty (hheaded : headed = false) :
    Opens headed [] [(.summary, .lines []), (.extendedSummary, .lines [])]
  | signedTwice (p : List Text) (hheaded : headed = true) (hp : isSignature (oneLine p) = true) :
    Opens headed [p] [(.signature, .text (oneLine p)), (.summary, .lines p)]
  | signed (p : List Text) (hheaded : headed = false) (hp : isSignature (oneLine p) = true) :
    Opens headed [p]
      [(.signature, .text (oneLine p)), (.summary, .lines []), (.extendedSummary, .lines [])]
  | summed (p : List Text) (rest : List (List Text)) (hp : isSignature (oneLine p) = false) :
    Opens headed (p :: rest) (summaryEntries headed p rest)
  | signedSummed (q p : List Text) (rest : List (List Text)) (hq : isSignature (oneLine q) = true)
      (hp : isSignature (oneLine p) = false) :
    Opens headed (q :: p :: rest) ((.signature, .text (oneLine q)) :: summaryEntries headed p rest)

theorem frontEntries_summed {p : List Text} (hp : isSignature (oneLine p) = false) (rest : List (List Text)) :
    frontEntries headed (p :: rest) = summaryEntries headed p rest := by
  rw [frontEntries, hp]
  rfl

theorem openingEntries_cons (p : List Text) (rest : List (List Text)) :
    openingEntries headed (p :: rest) = frontEntries headed (p :: rest) := rfl

theorem Opens.eq (h : Opens headed front es) : openingEntries headed front = es := by
  cases h with
  | nothing hheaded | empty hheaded => subst hheaded; rfl
  | signedTwice p hheaded hp | signed p hheaded hp =>
    subst hheaded
    rw [openingEntries_cons, frontEntries, hp]
    rfl
  | summed p rest hp => rw [openingEntries_cons, frontEntries_summed hp]
  | signedSummed q p rest hq hp =>
    rw [openingEntries_cons, frontEntries, hq, ← frontEntries_summed hp]
    rfl

theorem sublist_summaryEntries (headed : Bool) (p : List Text) (rest : List (List Text)) :
    ((summaryEntries headed p rest).map (·.1)).Sublist [.summary, .extendedSummary] := by
  unfold summaryEntries
  split
  · exact List.sublist_append_left [Section.summary] [.extendedSummary]
  · exact .refl _

/-- What is read of an opening stands in the order of a docstring. -/
theorem Opens.sublist (h : Opens headed front es) :
    (es.map (·.1)).Sublist [.signature, .summary, .extendedSummary] := by
  cases h with
  | nothing => exact List.nil_sublist _
  | empty => exact List.sublist_cons_self _ _
  | signedTwice => exact List.sublist_append_left [Section.signature, .summary] [.extendedSummary]
  | signed => exact .refl _
  | summed p rest => exact (sublist_summaryEntries headed p rest).cons _
  | signedSummed q p rest => exact (sublist_summaryEntries headed p rest).cons_cons _

theorem Opens.nodup (h : Opens headed front es) : (es.map (·.1.recordName)).Nodup := by
  have hmap : es.map (·.1.recordName) = (es.map (·.1)).map Section.recordName := by
    rw [List.map_map]
    rfl
  rw [hmap]
  exact (h.sublist.nodup (by decide)).map fun _ _ => recordName_injective

/-- **The forms of an opening.**  What is recorded without repetition comes from one of them. -/
theorem opens_iff :
    Opens headed front es ↔ openingEntries headed front = es ∧ (es.map (·.1.recordName)).Nodup := by
  refine ⟨fun h => ⟨h.eq, h.nodup⟩, ?_⟩
  rintro ⟨rfl, hnodup⟩
  match front with
  | [] =>
    cases headed with
    | true => exact .nothing rfl
    | false => exact .empty rfl
  | p :: rest =>
    cases hp : isSignature (oneLine p) with
    | false =>
      rw [openingEntries_cons, frontEntries_summed hp]
      exact .summed p rest hp
    | true =>
      match rest with
      | [] =>
        cases headed with
        | true => exact (Opens.signedTwice p rfl hp).eq ▸ .signedTwice p rfl hp
        | false => exact (Opens.signed p rfl hp).eq ▸ .signed p rfl hp
      | q :: rest =>
        cases hq : isSignature (oneLine q) with
        | false => exact (Opens.signedSummed p q rest hp hq).eq ▸ .signedSummed p q rest hp hq
        | true =>
          -- A second signature is refused.
          rw [openingEntries_cons, frontEntries, hp, frontEntries, hq] at hnodup
          exact absurd List.mem_cons_self (List.nodup_cons.mp hnodup).1

namespace Opens

variable {d : Document} {s : Section} {c : Content}

theorem hasTitle_eq_false (h : Opens headed front es) (hmem : (s, c) ∈ es) : s.hasTitle = false :=
  (fits_openingEntries headed front (s, c) (h.eq.symm ▸ hmem)).2

theorem ne_index (h : Opens headed front es) (hmem : (s, c) ∈ es) : s ≠ .index := by
  rintro rfl
  cases h.hasTitle_eq_false hmem

theorem contents?_eq (h : Opens headed front es) (hmem : (s, c) ∈ es) :
    (blank.addAll es).contents? s =
      if (recordedAs s c).isEmpty then none else some (recordedAs s c) := by
  rw [contents?, content_addAll_of_mem content_blank.1 (nodup_of_nodup_names h.nodup) hmem (h.ne_index hmem)]

theorem contents?_eq_none (hs : s ≠ .summary) (hnot : s ∉ es.map (·.1)) :
    (blank.addAll es).contents? s = none := by
  have hothers : ∀ e ∈ es, e.1 ≠ s := fun e he heq => hnot (heq ▸ List.mem_map_of_mem he)
  rw [contents?, content_addAll_of_not_mem content_blank.1 hothers, content_blank.2,
    if_pos (isEmpty_default hs)]

end Opens

/-! ## The parts of a document -/

variable {d : Document} {t : Text} {opening : List (Section × Content)}

/-- The document holds what is read of the opening of a docstring and of its headed sections, but its
parameters may have been changed. -/
structure Parts (t : Text) (d : Document) (opening es : List (Section × Content)) : Prop where
  opens : Opens (!(headedParagraphs t).2.isEmpty) (headedParagraphs t).1 opening
  entries : Entries t es
  order : d.order = opening.map (·.1.recordName) ++ es.map (·.1.recordName)
  content : ∀ s, s ≠ .parameters → d.content s = (blank.addAll (opening ++ es)).content s

theorem exists_parts (h : (read none t).result = .ok d) : ∃ opening es, Parts t d opening es := by
  obtain ⟨es, hes, rfl⟩ := read_eq_ok_iff.mp h
  refine ⟨_, es, opens_iff.mpr ⟨rfl, ?_⟩, hes, ?_, fun _ _ => rfl⟩
  · have hnames := hes.nodup
    rw [List.map_append] at hnames
    exact (List.nodup_append.mp hnames).1
  · rw [order_addAll, List.map_append]
    rfl

namespace Parts

variable {s : Section} {c : Content}

theorem nodup (h : Parts t d opening es) : ((opening ++ es).map (·.1)).Nodup := by
  have hnames := h.entries.nodup
  rw [h.opens.eq] at hnames
  exact nodup_of_nodup_names hnames

theorem content_of_mem (h : Parts t d opening es) (hmem : (s, c) ∈ opening ++ es) (hindex : s ≠ .index)
    (hs : s ≠ .parameters) : d.content s = recordedAs s c :=
  (h.content s hs).trans (content_addAll_of_mem content_blank.1 h.nodup hmem hindex)

theorem content_of_not_mem (h : Parts t d opening es) (hothers : ∀ e ∈ opening ++ es, e.1 ≠ s)
    (hs : s ≠ .parameters) : d.content s = s.default := by
  rw [h.content s hs, content_addAll_of_not_mem content_blank.1 hothers, content_blank.2]

/-- Where there is no heading, the opening is all there is. -/
theorem eq_nil_of_not_headed (h : Parts t d opening es)
    (hheaded : (!(headedParagraphs t).2.isEmpty) = false) : es = [] := by
  have hreads := h.entries.reads
  have hgroups : (headedParagraphs t).2 = [] := by simpa using hheaded
  rw [hgroups] at hreads
  exact List.forall₂_nil_left_iff.mp hreads

end Parts
end DocTidy.Document
