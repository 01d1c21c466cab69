import DocTidy.Proofs.Document.Ink
import DocTidy.Proofs.Text.Letters
import DocTidy.Proofs.Text.Margin
import DocTidy.Printer

/-!
# Reading names of links

A name that was read is read again from its printed form, whatever follows it (`name?_again`), as
long as that does not go on as a name would.  So are lists of names, and the description behind them.
-/

namespace DocTidy.Link

open Text Printer

variable {t w rest word role : Text} {n : LinkName} {p : Char → Bool} {c : Char}

/-! ## Runs of characters -/

/-- The text is empty, or begins with a character that does not satisfy `p`. -/
def Stops (p : Char → Bool) (t : Text) : Prop := ∀ c, t.head? = some c → p c = false

theorem stops_nil : Stops p [] := fun _ hc => by cases hc

theorem stops_cons (hc : p c = false) : Stops p (c :: t) := by
  rintro a ha
  cases ha
  exact hc

theorem run?_eq_some_iff : run? p t = some (word, rest) ↔
    t = word ++ rest ∧ word ≠ [] ∧ (∀ c ∈ word, p c = true) ∧ Stops p rest := by
  constructor
  · intro h
    have ht := run?_eq_some h
    unfold run? at h
    split at h
    · cases h
    · rename_i hne
      obtain ⟨rfl, rfl⟩ := Prod.mk.inj (Option.some.inj h)
      refine ⟨ht, by simpa using hne, fun c hc => List.mem_takeWhile_imp hc, fun c hc => ?_⟩
      have hstop := List.head?_dropWhile_not p t
      rw [hc] at hstop
      exact hstop
  · rintro ⟨rfl, hne, hword, hstops⟩
    have hnone : rest.takeWhile p = [] := by
      cases rest with
      | nil => rfl
      | cons c r => exact List.takeWhile_cons_of_neg (by rw [hstops c rfl]; exact Bool.false_ne_true)
    have htake : (word ++ rest).takeWhile p = word := by
      rw [List.takeWhile_append_of_pos hword, hnone, List.append_nil]
    have hdrop : (word ++ rest).dropWhile p = rest := by
      have hboth := List.takeWhile_append_dropWhile (p := p) (l := word ++ rest)
      rw [htake] at hboth
      exact List.append_cancel_left hboth
    unfold run?
    rw [htake, hdrop, if_neg (by simpa using hne)]

theorem run?_eq_none (h : Stops p t) : run? p t = none := by
  unfold run?
  cases t with
  | nil => rfl
  | cons c r =>
    rw [List.takeWhile_cons_of_neg (by rw [h c rfl]; exact Bool.false_ne_true)]
    rfl

theorem isSpace_of_isWord (hc : isWord c = true) : isSpace c = false := by
  rw [← Bool.not_eq_true]
  intro hspace
  rw [isWord_of_isSpace hspace] at hc
  cases hc

theorem isNameChar_of_isSpace (hc : isSpace c = true) : isNameChar c = false :=
  eq_false_of_isSpace (by decide +kernel) hc

theorem isSpace_of_isNameChar (hc : isNameChar c = true) : isSpace c = false := by
  rw [← Bool.not_eq_true]
  intro hspace
  rw [isNameChar_of_isSpace hspace] at hc
  cases hc

/-! ## Roles -/

theorem closedWord?_eq_some_iff {front : Text} : closedWord? front t = some (role, rest) ↔
    ∃ word, t = word ++ ':' :: rest ∧ word ≠ [] ∧ (∀ c ∈ word, isWord c = true) ∧ role = front ++ word := by
  constructor
  · intro h
    unfold closedWord? at h
    split at h
    · rename_i word rest' hrun
      obtain ⟨rfl, rfl⟩ := Prod.mk.inj (Option.some.inj h)
      obtain ⟨ht, hne, hword, -⟩ := run?_eq_some_iff.mp hrun
      exact ⟨word, ht, hne, hword, rfl⟩
    · cases h
  · rintro ⟨word, rfl, hne, hword, rfl⟩
    unfold closedWord?
    rw [run?_eq_some_iff.mpr ⟨rfl, hne, hword, stops_cons (by decide)⟩]
    rfl

theorem closedWord?_eq_none {front : Text} (h : Stops isWord t) : closedWord? front t = none := by
  unfold closedWord?
  rw [run?_eq_none h]

theorem role?_py (r : Text) : role? ("py:" ++ r) =
    (closedWord? "py:" r).orElse fun _ => closedWord? [] ("py:" ++ r) := rfl

theorem role?_plain (h : startsWith t "py:" = false) : role? t = closedWord? [] t := by
  unfold role?
  rw [h]
  rfl

theorem closedWord?_nil_iff : closedWord? [] t = some (role, rest) ↔
    t = role ++ ':' :: rest ∧ role ≠ [] ∧ ∀ c ∈ role, isWord c = true := by
  rw [closedWord?_eq_some_iff]
  constructor
  · rintro ⟨word, ht, hne, hword, rfl⟩
    exact ⟨ht, hne, hword⟩
  · rintro ⟨ht, hne, hword⟩
    exact ⟨role, ht, hne, hword, rfl⟩

/-- The word in front of a colon that is no word character. -/
theorem eq_py_of_append {r : Text} (h : "py:" ++ r = role ++ ':' :: rest) (hne : role ≠ [])
    (hrole : ∀ c ∈ role, isWord c = true) : role = "py" := by
  match role, h, hrole with
  | [], _, _ => exact absurd rfl hne
  | [a], h, _ => cases (List.cons.inj (List.cons.inj h).2).1
  | [a, b], h, _ =>
    rw [← (List.cons.inj h).1, ← (List.cons.inj (List.cons.inj h).2).1]
    rfl
  | a :: b :: c :: role, h, hrole =>
    have hc : c = ':' := (List.cons.inj (List.cons.inj (List.cons.inj h).2).2).1.symm
    cases (hrole ':' (by simp [hc]))

theorem role?_cases (h : role? t = some (role, rest)) :
    (∃ r, closedWord? "py:" r = some (role, rest)) ∨ closedWord? [] t = some (role, rest) := by
  cases hpy : startsWith t "py:" with
  | true =>
    obtain ⟨r, rfl⟩ := List.isPrefixOf_iff_prefix.mp hpy
    rw [role?_py] at h
    cases hclosed : closedWord? "py:" r with
    | some parts =>
      rw [hclosed] at h
      exact .inl ⟨r, hclosed.trans h⟩
    | none =>
      rw [hclosed] at h
      exact .inr h
  | false =>
    rw [role?_plain hpy] at h
    exact .inr h

/-- A role is read again in front of a backtick. -/
theorem role?_again (h : role? t = some (role, '\x60' :: rest)) (rest' : Text) :
    role? (role ++ ':' :: '\x60' :: rest') = some (role, '\x60' :: rest') := by
  rcases role?_cases h with ⟨r, hclosed⟩ | hclosed
  · obtain ⟨word, -, hne, hword, rfl⟩ := closedWord?_eq_some_iff.mp hclosed
    rw [List.append_assoc, role?_py, closedWord?_eq_some_iff.mpr ⟨word, rfl, hne, hword, rfl⟩]
    rfl
  · obtain ⟨-, hne, hrole⟩ := closedWord?_nil_iff.mp hclosed
    have hagain : closedWord? [] (role ++ ':' :: '\x60' :: rest') = some (role, '\x60' :: rest') :=
      closedWord?_nil_iff.mpr ⟨rfl, hne, hrole⟩
    cases hpy : startsWith (role ++ ':' :: '\x60' :: rest') "py:" with
    | true =>
      -- The role is `py` itself, and behind its colon there is no word.
      obtain ⟨r, hr⟩ := List.isPrefixOf_iff_prefix.mp hpy
      obtain rfl := eq_py_of_append hr hne hrole
      obtain rfl : r = '\x60' :: rest' := List.append_cancel_left hr
      rw [← hr, role?_py, closedWord?_eq_none (stops_cons (by decide)), hr, hagain]
      rfl
    | false => rw [role?_plain hpy, hagain]

theorem isSpace_of_mem_closedWord {front : Text} (hfront : ∀ c ∈ front, isSpace c = false)
    (h : closedWord? front t = some (role, rest)) : ∀ c ∈ role, isSpace c = false := by
  obtain ⟨word, -, -, hword, rfl⟩ := closedWord?_eq_some_iff.mp h
  intro c hc
  rcases List.mem_append.mp hc with hc | hc
  · exact hfront c hc
  · exact isSpace_of_isWord (hword c hc)

theorem isSpace_of_mem_py : ∀ c ∈ ("py:" : Text), isSpace c = false := by
  have hall : ("py:" : Text).all (fun c => !isSpace c) = true := rfl
  intro c hc
  simpa using List.all_eq_true.mp hall c hc

theorem isSpace_of_mem_role (h : role? t = some (role, rest)) : ∀ c ∈ role, isSpace c = false := by
  rcases role?_cases h with ⟨r, hclosed⟩ | hclosed
  · exact isSpace_of_mem_closedWord isSpace_of_mem_py hclosed
  · exact isSpace_of_mem_closedWord (fun c hc => absurd hc List.not_mem_nil) hclosed

/-! ## Names -/

/-- What may stand in front of a name in backticks: nothing, or a tilde, a word and a dot. -/
def IsMark (mark : Text) : Prop :=
  mark = [] ∨ ∃ first : Text, first ≠ [] ∧ (∀ c ∈ first, isWord c = true) ∧ mark = '~' :: (first ++ ['.'])

theorem shortening_cases (t : Text) : IsMark (shortening t).1 := by
  unfold shortening
  split
  · split
    · rename_i hrun
      obtain ⟨-, hne, hword, -⟩ := run?_eq_some_iff.mp hrun
      exact .inr ⟨_, hne, hword, rfl⟩
    · exact .inl rfl
  · exact .inl rfl

theorem shortening_append {mark : Text} (hmark : IsMark mark) (ht : t.head? ≠ some '~') :
    shortening (mark ++ t) = (mark, t) := by
  rcases hmark with rfl | ⟨first, hne, hword, rfl⟩
  · rw [List.nil_append]
    unfold shortening
    split
    · exact absurd rfl ht
    · rfl
  · have hrun : run? isWord (first ++ '.' :: t) = some (first, '.' :: t) :=
      run?_eq_some_iff.mpr ⟨rfl, hne, hword, stops_cons (by decide)⟩
    show shortening ('~' :: (first ++ ['.'] ++ t)) = _
    rw [List.append_assoc, List.singleton_append]
    simp only [shortening, hrun]
    rfl

theorem tickedName?_eq_some_iff {name : Text} : tickedName? ('\x60' :: t) = some (name, rest) ↔
    ∃ word, run? isNameChar (shortening t).2 = some (word, '\x60' :: rest) ∧
      name = (shortening t).1 ++ word := by
  simp only [tickedName?]
  constructor
  · intro h
    split at h
    · rename_i word rest' hrun
      obtain ⟨rfl, rfl⟩ := Prod.mk.inj (Option.some.inj h)
      exact ⟨word, hrun, rfl⟩
    · cases h
  · rintro ⟨word, hrun, rfl⟩
    rw [hrun]
    rfl

/-- A name in backticks is read again, whatever follows it. -/
theorem tickedName?_again {name : Text} (h : tickedName? ('\x60' :: t) = some (name, rest))
    (rest' : Text) : tickedName? ('\x60' :: (name ++ '\x60' :: rest')) = some (name, rest') := by
  obtain ⟨word, hrun, rfl⟩ := tickedName?_eq_some_iff.mp h
  obtain ⟨-, hne, hword, -⟩ := run?_eq_some_iff.mp hrun
  have hmark := shortening_cases t
  generalize (shortening t).1 = mark at hmark ⊢
  have hshort : shortening (mark ++ (word ++ '\x60' :: rest')) = (mark, word ++ '\x60' :: rest') := by
    refine shortening_append hmark ?_
    cases word with
    | nil => exact absurd rfl hne
    | cons c word =>
      intro htilde
      obtain rfl := Option.some.inj htilde
      cases hword '~' List.mem_cons_self
  rw [List.append_assoc, tickedName?_eq_some_iff, hshort]
  exact ⟨word, run?_eq_some_iff.mpr ⟨rfl, hne, hword, stops_cons (by decide)⟩, rfl⟩

/-- The text cannot be taken for more of the name. -/
def StopsName (n : LinkName) (t : Text) : Prop := n.role = none → Stops isNameChar t

theorem name?_colon_iff : name? (':' :: t) = some (n, rest) ↔
    ∃ name role r, n = ⟨name, some role⟩ ∧ role? t = some (role, r) ∧ tickedName? r = some (name, rest) := by
  show ((role? t).bind fun x => (tickedName? x.2).bind fun y =>
    some ((⟨y.1, some x.1⟩ : LinkName), y.2)) = _ ↔ _
  simp only [Option.bind_eq_some_iff, Prod.exists, Option.some.injEq, Prod.mk.injEq]
  constructor
  · rintro ⟨role, r, hrole, name, rest', hname, rfl, rfl⟩
    exact ⟨name, role, r, rfl, hrole, hname⟩
  · rintro ⟨name, role, r, rfl, hrole, hname⟩
    exact ⟨role, r, hrole, name, rest, hname, rfl, rfl⟩

theorem name?_plain_iff (h : t.head? ≠ some ':') : name? t = some (n, rest) ↔
    ∃ name, n = ⟨name, none⟩ ∧ run? isNameChar t = some (name, rest) := by
  have hunfold : name? t = (run? isNameChar t).bind fun x => some ((⟨x.1, none⟩ : LinkName), x.2) := by
    unfold name?
    split
    · exact absurd rfl h
    · rfl
  rw [hunfold]
  simp only [Option.bind_eq_some_iff, Prod.exists, Option.some.injEq, Prod.mk.injEq]
  constructor
  · rintro ⟨name, rest', hrun, rfl, rfl⟩
    exact ⟨name, rfl, hrun⟩
  · rintro ⟨name, rfl, hrun⟩
    exact ⟨name, rest, hrun, rfl, rfl⟩

theorem printLinkName_role (name role rest : Text) : printLinkName ⟨name, some role⟩ ++ rest =
    ':' :: (role ++ ':' :: '\x60' :: (name ++ '\x60' :: rest)) := by
  simp [printLinkName]

/-- **A name that was read is read again from its printed form**, if what follows does not prolong it. -/
theorem name?_again (h : name? t = some (n, rest)) :
    t = printLinkName n ++ rest ∧ StopsName n rest ∧
      ∀ rest', StopsName n rest' → name? (printLinkName n ++ rest') = some (n, rest') := by
  by_cases hcolon : t.head? = some ':'
  · obtain ⟨r, rfl⟩ := List.head?_eq_some_iff.mp hcolon
    obtain ⟨name, role, r', rfl, hrole, hname⟩ := name?_colon_iff.mp h
    have ht := role?_eq_some hrole
    rw [tickedName?_eq_some hname] at ht hrole hname
    refine ⟨?_, fun hnone => (by cases hnone), fun rest' _ => ?_⟩
    · rw [printLinkName_role, ht]
    · rw [printLinkName_role, name?_colon_iff]
      exact ⟨name, role, _, rfl, role?_again hrole _, tickedName?_again hname rest'⟩
  · obtain ⟨name, rfl, hrun⟩ := (name?_plain_iff hcolon).mp h
    obtain ⟨rfl, hne, hname, hstops⟩ := run?_eq_some_iff.mp hrun
    refine ⟨rfl, fun _ => hstops, fun rest' hrest' => ?_⟩
    show name? (name ++ rest') = _
    -- A plain name has no colon that could be taken for that of a role.
    have hplain : (name ++ rest').head? ≠ some ':' := by
      cases name with
      | nil => exact absurd rfl hne
      | cons c name =>
        intro hhead
        rw [Option.some.inj hhead] at hname
        cases hname ':' List.mem_cons_self
    exact (name?_plain_iff hplain).mpr ⟨name, rfl, run?_eq_some_iff.mpr ⟨rfl, hne, hname, hrest' rfl⟩⟩

theorem isSpace_of_mem_mark {mark : Text} (h : IsMark mark) : ∀ c ∈ mark, isSpace c = false := by
  rcases h with rfl | ⟨first, -, hfirst, rfl⟩
  · exact fun c hc => absurd hc List.not_mem_nil
  · intro c hc
    rcases List.mem_cons.mp hc with rfl | hc
    · rfl
    · rcases List.mem_append.mp hc with hc | hc
      · exact isSpace_of_isWord (hfirst c hc)
      · rw [List.mem_singleton.mp hc]
        rfl

theorem isSpace_of_mem_tickedName {name : Text} (h : tickedName? ('\x60' :: t) = some (name, rest)) :
    ∀ c ∈ name, isSpace c = false := by
  obtain ⟨word, hrun, rfl⟩ := tickedName?_eq_some_iff.mp h
  intro c hc
  rcases List.mem_append.mp hc with hc | hc
  · exact isSpace_of_mem_mark (shortening_cases t) c hc
  · exact isSpace_of_isNameChar ((run?_eq_some_iff.mp hrun).2.2.1 c hc)

/-- No white space stands in a name. -/
theorem isSpace_of_mem_name (h : name? t = some (n, rest)) : ∀ c ∈ printLinkName n, isSpace c = false := by
  by_cases hcolon : t.head? = some ':'
  · obtain ⟨r, rfl⟩ := List.head?_eq_some_iff.mp hcolon
    obtain ⟨name, role, r', rfl, hrole, hname⟩ := name?_colon_iff.mp h
    rw [tickedName?_eq_some hname] at hname
    intro c hc
    rw [← List.append_nil (printLinkName _), printLinkName_role] at hc
    simp only [List.mem_cons, List.mem_append, List.not_mem_nil, or_false] at hc
    rcases hc with rfl | hc | rfl | rfl | hc | rfl
    · rfl
    · exact isSpace_of_mem_role hrole c hc
    · rfl
    · rfl
    · exact isSpace_of_mem_tickedName hname c hc
    · rfl
  · obtain ⟨name, rfl, hrun⟩ := (name?_plain_iff hcolon).mp h
    exact fun c hc => isSpace_of_isNameChar ((run?_eq_some_iff.mp hrun).2.2.1 c hc)

/-- A name does not begin with white space. -/
theorem head_of_name? (h : name? t = some (n, rest)) : ∃ c r, t = c :: r ∧ isSpace c = false := by
  by_cases hcolon : t.head? = some ':'
  · obtain ⟨r, rfl⟩ := List.head?_eq_some_iff.mp hcolon
    exact ⟨':', r, rfl, rfl⟩
  · obtain ⟨name, rfl, hrun⟩ := (name?_plain_iff hcolon).mp h
    obtain ⟨rfl, hne, hname, -⟩ := run?_eq_some_iff.mp hrun
    cases name with
    | nil => exact absurd rfl hne
    | cons c name => exact ⟨c, name ++ rest, rfl, isSpace_of_isNameChar (hname c List.mem_cons_self)⟩

theorem name?_colon_space {e : Char} (he : isSpace e = true) (t : Text) : name? (':' :: e :: t) = none := by
  rw [Option.eq_none_iff_forall_ne_some]
  rintro ⟨n, rest⟩ h
  obtain ⟨name, role, r, -, hrole, -⟩ := name?_colon_iff.mp h
  have hplain : startsWith (e :: t) "py:" = false := by
    rw [← Bool.not_eq_true]
    intro hstart
    obtain ⟨hp, -⟩ := List.cons_prefix_cons.mp (List.isPrefixOf_iff_prefix.mp hstart)
    rw [← hp] at he
    cases he
  rw [role?_plain hplain, closedWord?_eq_none (stops_cons (isWord_of_isSpace he))] at hrole
  cases hrole

/-! ## Lists of names -/

/-- The name is read again from its printed form. -/
def IsLegible (n : LinkName) : Prop :=
  ∀ rest, StopsName n rest → name? (printLinkName n ++ rest) = some (n, rest)

theorem IsLegible.head (h : IsLegible n) : ∃ c r, printLinkName n = c :: r ∧ isSpace c = false := by
  have hname := h [] fun _ => stops_nil
  rw [List.append_nil] at hname
  exact head_of_name? hname

theorem IsLegible.stripLeft_append (h : IsLegible n) (t : Text) :
    stripLeft (printLinkName n ++ t) = printLinkName n ++ t := by
  obtain ⟨c, r, hprinted, hc⟩ := h.head
  rw [hprinted]
  exact List.dropWhile_cons_of_neg (by rw [hc]; exact Bool.false_ne_true)

theorem IsLegible.isSpace_of_mem (h : IsLegible n) : ∀ c ∈ printLinkName n, isSpace c = false :=
  isSpace_of_mem_name (h [] fun _ => stops_nil)

/-- Names that follow others. -/
def listed (ns : List LinkName) : Text := ns.flatMap fun n => ", " ++ printLinkName n

theorem length_listed (ns : List LinkName) : ns.length ≤ (listed ns).length := by
  induction ns with
  | nil => exact Nat.le_refl 0
  | cons n ns ih =>
    have hcomma : (", " : Text).length = 2 := rfl
    unfold listed at ih ⊢
    simp only [List.flatMap_cons, List.length_append, List.length_cons]
    omega

theorem intercalate_names (n : LinkName) (ns : List LinkName) :
    (", " : Text).intercalate ((n :: ns).map printLinkName) = printLinkName n ++ listed ns := by
  induction ns generalizing n with
  | nil => simp [listed]
  | cons m ns ih =>
    rw [List.map_cons, List.map_cons, List.intercalate_cons_cons, ← List.map_cons, ih]
    simp [listed]

theorem moreNames_stop (fuel : Nat) (h : t.head? ≠ some ',') : moreNames fuel t = ([], t) := by
  cases fuel with
  | zero => rfl
  | succ fuel =>
    unfold moreNames
    split
    · exact absurd rfl h
    · rfl

theorem moreNames_some {fuel : Nat} (hc : isSpace c = true) (h : name? (stripLeft t) = some (n, rest)) :
    moreNames (fuel + 1) (',' :: c :: t) = (n :: (moreNames fuel rest).1, (moreNames fuel rest).2) := by
  simp only [moreNames, hc, h, if_true]

theorem moreNames_none (fuel : Nat) (h : isSpace c = true → name? (stripLeft t) = none) :
    moreNames fuel (',' :: c :: t) = ([], ',' :: c :: t) := by
  cases fuel with
  | zero => rfl
  | succ fuel =>
    cases hc : isSpace c with
    | true => simp only [moreNames, hc, h hc, if_true]
    | false => simp only [moreNames, hc, Bool.false_eq_true, if_false]

/-- Further names follow where a comma, white space and a name do. -/
theorem moreNames_cases (t : Text) : (∀ fuel, moreNames fuel t = ([], t)) ∨
    ∃ c r n rest, t = ',' :: c :: r ∧ isSpace c = true ∧ name? (stripLeft r) = some (n, rest) := by
  by_cases hcomma : t.head? = some ','
  · cases t with
    | nil => cases hcomma
    | cons a t =>
      obtain rfl := Option.some.inj hcomma
      cases t with
      | nil =>
        -- A comma at the end.
        refine .inl fun fuel => ?_
        cases fuel <;> rfl
      | cons c r =>
        by_cases hread : isSpace c = true ∧ (name? (stripLeft r)).isSome = true
        · obtain ⟨⟨n, rest⟩, hname⟩ := Option.isSome_iff_exists.mp hread.2
          exact .inr ⟨c, r, n, rest, rfl, hread.1, hname⟩
        · refine .inl fun fuel => moreNames_none fuel fun hc => ?_
          exact Option.not_isSome_iff_eq_none.mp fun hsome => hread ⟨hc, hsome⟩
  · exact .inl fun fuel => moreNames_stop fuel hcomma

/-- The text is empty, or begins with a space. -/
def IsApart (t : Text) : Prop := t = [] ∨ ∃ r, t = ' ' :: r

theorem IsApart.stopsName_listed (h : IsApart rest) (n : LinkName) (ns : List LinkName) :
    StopsName n (listed ns ++ rest) := by
  intro _
  cases ns with
  | nil =>
    rcases h with rfl | ⟨r, rfl⟩
    · exact stops_nil
    · exact stops_cons (by decide)
  | cons m ns => exact stops_cons (by decide)

theorem moreNames_listed {ns : List LinkName} (hns : ∀ n ∈ ns, IsLegible n) (hrest : IsApart rest)
    {fuel : Nat} (hfuel : ns.length ≤ fuel) : moreNames fuel (listed ns ++ rest) = (ns, rest) := by
  induction ns generalizing fuel with
  | nil =>
    refine moreNames_stop fuel ?_
    rcases hrest with rfl | ⟨r, rfl⟩
    · exact fun h => by cases h
    · exact fun h => by cases h
  | cons n ns ih =>
    rw [List.forall_mem_cons] at hns
    obtain ⟨fuel, rfl⟩ : ∃ k, fuel = k + 1 := ⟨fuel - 1, by simp at hfuel; omega⟩
    have hname : name? (stripLeft (printLinkName n ++ (listed ns ++ rest))) =
        some (n, listed ns ++ rest) := by
      rw [hns.1.stripLeft_append]
      exact hns.1 _ (hrest.stopsName_listed n ns)
    have hlisted : listed (n :: ns) ++ rest = ',' :: ' ' :: (printLinkName n ++ (listed ns ++ rest)) := by
      simp [listed]
    rw [hlisted, moreNames_some (by decide) hname, ih hns.2 (Nat.le_of_succ_le_succ hfuel)]

/-! ## Descriptions -/

theorem description?_eq_some_iff {d : Text} : description? t = some (some d) ↔
    ∃ r, stripLeft t = ':' :: r ∧ stripLeft r = d ∧ d ≠ [] ∧ d.length < r.length := by
  unfold description?
  constructor
  · intro h
    split at h
    · cases h
    · rename_i r hcolon
      split at h
      · cases h
      · rename_i desc hne
        split at h
        · rename_i hlength
          obtain rfl := Option.some.inj (Option.some.inj h)
          exact ⟨r, hcolon, rfl, hne, hlength⟩
        · cases h
    · cases h
  · rintro ⟨r, hcolon, rfl, hne, hlength⟩
    simp only [hcolon, if_pos hlength]

/-- What stands behind the names, without a comma or period that ends them. -/
def behindNames : Text → Text
  | ',' :: r => r
  | '.' :: r => r
  | t => t

/-- The names of a line and the description behind them. -/
theorem line?_eq_some {line : Text} {l : Line} (h : line? line = some l) :
    ∃ first rest, name? (stripLeft line) = some (first, rest) ∧
      l.names = first :: (moreNames rest.length rest).1 ∧
      description? (behindNames (moreNames rest.length rest).2) = some l.description := by
  unfold line? at h
  obtain ⟨⟨first, rest⟩, hname, h⟩ := Option.bind_eq_some_iff.mp h
  refine ⟨first, rest, hname, ?_⟩
  dsimp only at h
  generalize moreNames rest.length rest = found at h ⊢
  obtain ⟨more, behind⟩ := found
  dsimp only at h ⊢
  split at h
  · obtain ⟨d, hd, h⟩ := Option.bind_eq_some_iff.mp h
    obtain rfl := Option.some.inj h
    exact ⟨rfl, hd⟩
  · obtain ⟨d, hd, h⟩ := Option.bind_eq_some_iff.mp h
    obtain rfl := Option.some.inj h
    exact ⟨rfl, hd⟩
  · rename_i hcomma hperiod
    obtain ⟨d, hd, h⟩ := Option.bind_eq_some_iff.mp h
    obtain rfl := Option.some.inj h
    refine ⟨rfl, ?_⟩
    rw [behindNames.eq_3 _ hcomma hperiod]
    exact hd

theorem exists_line? {line : Text} {d : Option Text} (hname : name? (stripLeft line) = some (n, rest))
    (hd : description? (behindNames (moreNames rest.length rest).2) = some d) :
    ∃ l, line? line = some l ∧ l.names = n :: (moreNames rest.length rest).1 ∧ l.description = d := by
  unfold line?
  rw [hname]
  show ∃ l, (match (moreNames rest.length rest).2 with
    | ',' :: r | '.' :: r => _
    | _ => _) = some l ∧ _
  split
  · rename_i hbehind
    rw [hbehind] at hd
    exact ⟨_, Option.bind_eq_some_iff.mpr ⟨d, hd, rfl⟩, rfl, rfl⟩
  · rename_i hbehind
    rw [hbehind] at hd
    exact ⟨_, Option.bind_eq_some_iff.mpr ⟨d, hd, rfl⟩, rfl, rfl⟩
  · rename_i hcomma hperiod
    rw [behindNames.eq_3 _ hcomma hperiod] at hd
    exact ⟨_, Option.bind_eq_some_iff.mpr ⟨d, hd, rfl⟩, rfl, rfl⟩

/-- The description on a line, if it lists functions and has one. -/
def description (line : Text) : Option Text := (line? line).bind (·.description)

theorem description_eq_some_iff {line d : Text} : description line = some d ↔
    ∃ first rest, name? (stripLeft line) = some (first, rest) ∧
      description? (behindNames (moreNames rest.length rest).2) = some (some d) := by
  unfold description
  rw [Option.bind_eq_some_iff]
  constructor
  · rintro ⟨l, hl, hd⟩
    obtain ⟨first, rest, hname, -, hbehind⟩ := line?_eq_some hl
    exact ⟨first, rest, hname, by rw [hbehind, hd]⟩
  · rintro ⟨first, rest, hname, hbehind⟩
    obtain ⟨l, hl, -, hd⟩ := exists_line? hname hbehind
    exact ⟨l, hl, hd⟩

/-- A margin makes no difference. -/
theorem description_blank_append (hw : isBlank w = true) (t : Text) :
    description (w ++ t) = description t := by
  refine Option.ext fun d => ?_
  rw [description_eq_some_iff, description_eq_some_iff, stripLeft_blank_append hw]

theorem description?_append {d : Text} (h : description? t = some (some d)) (w : Text) :
    description? (t ++ w) = some (some (d ++ w)) := by
  obtain ⟨r, hcolon, rfl, hne, hlength⟩ := description?_eq_some_iff.mp h
  have hinked {u : Text} (hu : stripLeft u ≠ []) : stripLeft (u ++ w) = stripLeft u ++ w := by
    refine stripLeft_append ?_ w
    rw [← Bool.not_eq_true]
    exact fun hblank => hu (stripLeft_eq_nil_iff.mpr hblank)
  rw [description?_eq_some_iff]
  refine ⟨r ++ w, ?_, hinked hne, by simp [hne], ?_⟩
  · rw [hinked (by rw [hcolon]; exact List.cons_ne_nil _ _), hcolon, List.cons_append]
  · rw [List.length_append, List.length_append]
    omega

theorem name?_append (hw : isBlank w = true) (h : name? t = some (n, rest)) :
    name? (t ++ w) = some (n, rest ++ w) := by
  obtain ⟨rfl, hstops, hagain⟩ := name?_again h
  rw [List.append_assoc]
  refine hagain (rest ++ w) fun hrole c hc => ?_
  cases rest with
  | nil =>
    refine isNameChar_of_isSpace (List.all_eq_true.mp hw c ?_)
    exact List.mem_of_mem_head? hc
  | cons a r => exact hstops hrole c hc

theorem name?_stripLeft_append (hw : isBlank w = true) (h : name? (stripLeft t) = some (n, rest)) :
    name? (stripLeft (t ++ w)) = some (n, rest ++ w) := by
  rw [stripLeft_append, name?_append hw h]
  rw [← Bool.not_eq_true]
  intro hblank
  rw [stripLeft_eq_nil_iff.mpr hblank] at h
  cases h

theorem behindNames_append (ht : t ≠ []) (w : Text) : behindNames (t ++ w) = behindNames t ++ w := by
  cases t with
  | nil => exact absurd rfl ht
  | cons c r =>
    by_cases hcomma : c = ','
    · subst hcomma
      rfl
    · by_cases hperiod : c = '.'
      · subst hperiod
        rfl
      · have hsame (u : Text) : behindNames (c :: u) = c :: u :=
          behindNames.eq_3 _ (fun _ h => hcomma (List.cons.inj h).1) fun _ h => hperiod (List.cons.inj h).1
        rw [List.cons_append, hsame, hsame, List.cons_append]

/-- No name begins with the colon in front of a description. -/
theorem name?_of_description? {d : Text} (h : description? t = some (some d)) (w : Text) :
    name? (stripLeft (t ++ w)) = none := by
  obtain ⟨r, hcolon, hr, hne, hlength⟩ := description?_eq_some_iff.mp h
  have hinked : isBlank t = false := by
    rw [← Bool.not_eq_true]
    intro hblank
    rw [stripLeft_eq_nil_iff.mpr hblank] at hcolon
    cases hcolon
  rw [stripLeft_append hinked, hcolon]
  cases r with
  | nil => cases hlength
  | cons e r =>
    have he : isSpace e = true := by
      by_contra hspace
      rw [stripLeft, List.dropWhile_cons_of_neg hspace] at hr
      rw [hr] at hlength
      exact absurd hlength (Nat.lt_irrefl _)
    exact name?_colon_space he (r ++ w)

/-- Where a description follows the names, white space at the end does not belong to them. -/
theorem moreNames_append (hw : isBlank w = true) {fuel fuel' : Nat} (hfuel : t.length ≤ fuel)
    (hfuel' : (t ++ w).length ≤ fuel') {d : Text}
    (hd : description? (behindNames (moreNames fuel t).2) = some (some d)) :
    moreNames fuel' (t ++ w) = ((moreNames fuel t).1, (moreNames fuel t).2 ++ w) := by
  induction fuel generalizing t fuel' with
  | zero =>
    obtain rfl := List.eq_nil_of_length_eq_zero (Nat.le_zero.mp hfuel)
    cases hd
  | succ fuel ih =>
    rcases moreNames_cases t with hstop | ⟨c, r, n, rest, rfl, hc, hname⟩
    · rw [hstop] at hd ⊢
      rcases moreNames_cases (t ++ w) with hstop' | ⟨c, r, n, rest, ht, hc, hname⟩
      · exact hstop' fuel'
      · -- Behind the comma there is a colon and not a name.
        cases t with
        | nil => cases hd
        | cons a t =>
          rw [List.cons_append] at ht
          obtain ⟨rfl, hbehind⟩ := List.cons.inj ht
          have hnone := name?_of_description? (t := t) hd w
          rw [hbehind, stripLeft, List.dropWhile_cons_of_pos hc, ← stripLeft, hname] at hnone
          cases hnone
    · have hlength : rest.length ≤ r.length := by
        have hstrip := congrArg List.length (name?_again hname).1
        have := List.length_dropWhile_le isSpace r
        rw [List.length_append, stripLeft] at hstrip
        omega
      obtain ⟨fuel', rfl⟩ : ∃ k, fuel' = k + 1 := ⟨fuel' - 1, by simp at hfuel'; omega⟩
      rw [moreNames_some hc hname] at hd ⊢
      rw [List.cons_append, List.cons_append, moreNames_some hc (name?_stripLeft_append hw hname)]
      rw [ih (t := rest) (by simp at hfuel; omega) (by simp at hfuel' ⊢; omega) hd]

/-- White space at the end belongs to the description. -/
theorem description_append_blank (hw : isBlank w = true) {d : Text} (h : description t = some d) :
    description (t ++ w) = some (d ++ w) := by
  obtain ⟨first, rest, hname, hd⟩ := description_eq_some_iff.mp h
  rw [description_eq_some_iff]
  refine ⟨first, rest ++ w, name?_stripLeft_append hw hname, ?_⟩
  rw [moreNames_append hw (Nat.le_refl _) (Nat.le_refl _) hd, behindNames_append _ w,
    description?_append hd w]
  intro hnil
  rw [hnil] at hd
  cases hd

/-- A line without a description does not get one when it is stripped. -/
theorem description_strip (h : description t = none) : description (strip t) = none := by
  by_contra hsome
  obtain ⟨d, hd⟩ := Option.ne_none_iff_exists'.mp hsome
  obtain ⟨front, back, hfront, hback, ht⟩ := exists_strip t
  rw [ht, List.append_assoc, description_blank_append hfront, description_append_blank hback hd] at h
  cases h

/-! ## Lines -/

/-- The line on which names are printed, with `rest` behind them. -/
theorem exists_line?_printed {ns : List LinkName} (hn : IsLegible n) (hns : ∀ m ∈ ns, IsLegible m)
    (hrest : IsApart rest) {d : Option Text} (hd : description? rest = some d) :
    ∃ l, line? (printLinkName n ++ listed ns ++ rest) = some l ∧ l.names = n :: ns ∧ l.description = d := by
  have hname := hn (listed ns ++ rest) (hrest.stopsName_listed n ns)
  rw [← hn.stripLeft_append, ← List.append_assoc] at hname
  have hmore : moreNames (listed ns ++ rest).length (listed ns ++ rest) = (ns, rest) := by
    refine moreNames_listed hns hrest ?_
    rw [List.length_append]
    exact (length_listed ns).trans (Nat.le_add_right _ _)
  have hbehind : behindNames rest = rest := by
    rcases hrest with rfl | ⟨r, rfl⟩ <;> rfl
  obtain ⟨l, hl, hnames, hdesc⟩ := exists_line? hname (by rw [hmore, hbehind, hd])
  rw [hmore] at hnames
  exact ⟨l, hl, hnames, hdesc⟩

/-- The names that are listed are legible, and what follows them is the end of the text. -/
theorem moreNames_parts (fuel : Nat) (t : Text) :
    (∀ n ∈ (moreNames fuel t).1, IsLegible n) ∧ (moreNames fuel t).2 <:+ t := by
  induction fuel generalizing t with
  | zero => exact ⟨fun n hn => absurd hn List.not_mem_nil, List.suffix_refl t⟩
  | succ fuel ih =>
    rcases moreNames_cases t with hstop | ⟨c, r, n, rest, rfl, hc, hname⟩
    · rw [hstop]
      exact ⟨fun n hn => absurd hn List.not_mem_nil, List.suffix_refl t⟩
    · rw [moreNames_some hc hname]
      obtain ⟨hr, -, hagain⟩ := name?_again hname
      obtain ⟨hnames, hbehind⟩ := ih rest
      refine ⟨List.forall_mem_cons.mpr ⟨hagain, hnames⟩, hbehind.trans ?_⟩
      have hrest : rest <:+ stripLeft r := by
        rw [hr]
        exact List.suffix_append _ rest
      exact (hrest.trans (List.dropWhile_suffix isSpace)).trans
        ((List.suffix_cons c r).trans (List.suffix_cons _ _))

theorem behindNames_suffix (t : Text) : behindNames t <:+ t := by
  unfold behindNames
  split
  · exact List.suffix_cons _ _
  · exact List.suffix_cons _ _
  · exact List.suffix_refl t

theorem description?_suffix {d : Text} (h : description? t = some (some d)) : d <:+ t := by
  obtain ⟨r, hcolon, rfl, -, -⟩ := description?_eq_some_iff.mp h
  have hr : r <:+ stripLeft t := by
    rw [hcolon]
    exact List.suffix_cons _ r
  exact (List.dropWhile_suffix isSpace).trans (hr.trans (List.dropWhile_suffix isSpace))

/-- **What a line that lists functions gives**: legible names and a description that is stripped on the
left and ends where the line does. -/
theorem line?_parts {line : Text} {l : Line} (h : line? line = some l) :
    l.names ≠ [] ∧ (∀ n ∈ l.names, IsLegible n) ∧
      ∀ d, l.description = some d → stripLeft d = d ∧ d ≠ [] ∧ d <:+ line := by
  obtain ⟨first, rest, hname, hnames, hd⟩ := line?_eq_some h
  obtain ⟨hline, -, hagain⟩ := name?_again hname
  obtain ⟨hmore, hbehind⟩ := moreNames_parts rest.length rest
  rw [hnames]
  refine ⟨List.cons_ne_nil _ _, List.forall_mem_cons.mpr ⟨hagain, hmore⟩, fun d hdesc => ?_⟩
  rw [hdesc] at hd
  have hrest : rest <:+ line := by
    have hend := List.suffix_append (printLinkName first) rest
    rw [← hline] at hend
    exact hend.trans (List.dropWhile_suffix isSpace)
  have hend := ((description?_suffix hd).trans (behindNames_suffix _)).trans (hbehind.trans hrest)
  obtain ⟨r, -, rfl, hne, -⟩ := description?_eq_some_iff.mp hd
  exact ⟨List.dropWhile_idempotent isSpace r, hne, hend⟩

end DocTidy.Link
