import DocTidy.Source.Outline
import DocTidy.Proofs.Run
import Mathlib.Data.List.Infix

/-!
# The functions of an outline

Every statement of an outline has a place, and the places are ordered like the statements: a statement
comes before those in it, and those before the ones behind it.  Going through an outline finds the
function at each place where there is one, in that order, under the names of all that it stands in.
A list of names to pass over takes out the functions whose path is on it, or goes through one that is,
and no others.
-/

namespace DocTidy.Source

open Text

/-! ## Places -/

namespace Statement

/-- The statements in a statement. -/
def body : Statement → List Statement
  | function _ _ body | coroutine body | classDef _ body | compound body => body
  | string _ | other => []

/-- What a statement adds to the path of the statements in it. -/
def scope : Statement → List Text
  | function name _ _ | classDef name _ => [name]
  | coroutine _ | compound _ | string _ | other => []

theorem sizeOf_body_le (s : Statement) : sizeOf s.body ≤ sizeOf s := by
  cases s with
  | string _ | other => simp [body]
  | _ =>
    simp only [body, function.sizeOf_spec, coroutine.sizeOf_spec, classDef.sizeOf_spec,
      compound.sizeOf_spec]
    omega

end Statement

/-- The statements on the way to a place, from the outermost one to the one that stands there.  A place
says for each of them how many statements stand before it in the same body. -/
def wayTo? : List Statement → List Nat → Option (List Statement)
  | _, [] => some []
  | statements, i :: place => do
    let s ← statements[i]?
    let way ← wayTo? s.body place
    return s :: way

/-- The function that a way leads to; its path is made of the names of all scopes on the way. -/
def functionOn? (way : List Statement) : Option Function :=
  match way.getLast? with
  | some (.function name signature body) =>
    some ⟨way.flatMap Statement.scope, name, signature, docstringOf? body⟩
  | _ => none

def functionAt? (statements : List Statement) (place : List Nat) : Option Function :=
  (wayTo? statements place).bind functionOn?

/-- The path, or one that it goes on from, is on the list.  Both are seen from `base`. -/
def passesOver (names : List (Option Text)) (base path : List Text) : Bool :=
  path.inits.any fun p => !p.isEmpty && names.contains (some (dotted (base ++ p)))

/-- A function as it is seen from further outside. -/
def Function.under (base : List Text) (f : Function) : Function := { f with path := base ++ f.path }

/-- The functions of some statements with their places, where `i` statements stand before them. -/
def located (i : Nat) : List Statement → List (List Nat × Function)
  | [] => []
  | s :: rest =>
    (functionOn? [s]).toList.map ([i], ·) ++
      (located 0 s.body).map (Prod.map (i :: ·) (Function.under s.scope)) ++ located (i + 1) rest
termination_by statements => sizeOf statements
decreasing_by
  · have := s.sizeOf_body_le
    simp only [List.cons.sizeOf_spec]
    omega
  · simp only [List.cons.sizeOf_spec]
    omega

/-! ## The function at a place -/

theorem functionOn?_cons (s : Statement) {way : List Statement} (h : way ≠ []) :
    functionOn? (s :: way) = (functionOn? way).map (Function.under s.scope) := by
  have hlast : (s :: way).getLast? = way.getLast? := by
    obtain ⟨t, rest, rfl⟩ := List.exists_cons_of_ne_nil h
    exact List.getLast?_cons_cons
  unfold functionOn?
  rw [hlast]
  split <;> simp_all [Function.under]

theorem path_of_functionOn? {s : Statement} {f : Function} (h : functionOn? [s] = some f) :
    f.path = s.scope := by
  cases s with
  | function name signature body => rw [← Option.some.inj h]; rfl
  | _ => cases h

theorem functionAt?_single (s : Statement) (rest : List Statement) :
    functionAt? (s :: rest) [0] = functionOn? [s] := rfl

theorem functionAt?_inside (s : Statement) (rest : List Statement) (i : Nat) (place : List Nat) :
    functionAt? (s :: rest) (0 :: i :: place) =
      (functionAt? s.body (i :: place)).map (Function.under s.scope) := by
  unfold functionAt?
  rw [wayTo?]
  show Option.bind (Option.bind (wayTo? s.body (i :: place)) _) functionOn? = _
  cases hway : wayTo? s.body (i :: place) with
  | none => rfl
  | some way =>
    have hne : way ≠ [] := by
      rintro rfl
      rw [wayTo?] at hway
      cases hs : s.body[i]? with
      | none => simp [hs] at hway
      | some t => cases ht : wayTo? t.body place <;> simp [hs, ht] at hway
    exact functionOn?_cons s hne

theorem functionAt?_behind (s : Statement) (rest : List Statement) (i : Nat) (place : List Nat) :
    functionAt? (s :: rest) ((i + 1) :: place) = functionAt? rest (i :: place) := rfl

/-! ## Listing by place -/

theorem mem_located {i : Nat} {statements : List Statement} {place : List Nat} {f : Function} :
    (place, f) ∈ located i statements ↔
      ∃ j inner, place = (i + j) :: inner ∧ functionAt? statements (j :: inner) = some f := by
  induction i, statements using located.induct generalizing place f with
  | case1 i =>
    have hnone (j : Nat) (inner : List Nat) : functionAt? [] (j :: inner) = none := rfl
    simp [located, hnone]
  | case2 i s rest ihBody ihRest =>
    rw [located, List.mem_append, List.mem_append, ihRest]
    constructor
    · rintro ((hown | hinside) | hbehind)
      · obtain ⟨g, hg, heq⟩ := List.mem_map.mp hown
        obtain ⟨rfl, rfl⟩ := Prod.mk.inj heq
        refine ⟨0, [], rfl, ?_⟩
        rw [functionAt?_single]
        exact Option.mem_toList.mp hg
      · obtain ⟨⟨inner, g⟩, hg, heq⟩ := List.mem_map.mp hinside
        obtain ⟨rfl, rfl⟩ := Prod.mk.inj heq
        obtain ⟨j, inner, rfl, hat⟩ := ihBody.mp hg
        refine ⟨0, (0 + j) :: inner, rfl, ?_⟩
        rw [Nat.zero_add, functionAt?_inside, hat]
        rfl
      · obtain ⟨j, inner, rfl, hat⟩ := hbehind
        refine ⟨j + 1, inner, ?_, (functionAt?_behind s rest j inner).trans hat⟩
        rw [show i + 1 + j = i + (j + 1) by omega]
    · rintro ⟨j, inner, rfl, hat⟩
      match j, inner with
      | 0, [] =>
        rw [functionAt?_single] at hat
        exact .inl (.inl (List.mem_map.mpr ⟨f, Option.mem_toList.mpr hat, rfl⟩))
      | 0, j :: inner =>
        rw [functionAt?_inside] at hat
        obtain ⟨g, hg, rfl⟩ := Option.map_eq_some_iff.mp hat
        have hmem : (j :: inner, g) ∈ located 0 s.body :=
          ihBody.mpr ⟨j, inner, by rw [Nat.zero_add], hg⟩
        exact .inl (.inr (List.mem_map.mpr ⟨_, hmem, rfl⟩))
      | j + 1, inner =>
        rw [functionAt?_behind] at hat
        refine .inr ⟨j, inner, ?_, hat⟩
        rw [show i + (j + 1) = i + 1 + j by omega]

theorem mem_located_zero {statements : List Statement} {place : List Nat} {f : Function} :
    (place, f) ∈ located 0 statements ↔ functionAt? statements place = some f := by
  rw [mem_located]
  constructor
  · rintro ⟨j, inner, rfl, h⟩
    rwa [Nat.zero_add]
  · intro h
    cases place with
    | nil => cases h
    | cons j inner => exact ⟨j, inner, by rw [Nat.zero_add], h⟩

/-- The places ascend: a statement's own place is before those in it, and these are before all that
start with a greater number. -/
theorem pairwise_located (i : Nat) (statements : List Statement) :
    ((located i statements).map Prod.fst).Pairwise (List.Lex (· < ·)) := by
  induction i, statements using located.induct with
  | case1 i => simp [located]
  | case2 i s rest ihBody ihRest =>
    have hinside : (located 0 s.body).map (Prod.fst ∘ Prod.map (i :: ·) (Function.under s.scope)) =
        ((located 0 s.body).map Prod.fst).map (i :: ·) := by
      rw [List.map_map]
      rfl
    have hown : (functionOn? [s]).toList.map (Prod.fst ∘ fun f => ([i], f)) =
        (functionOn? [s]).toList.map fun _ => [i] := rfl
    rw [located, List.map_append, List.map_append, List.map_map, List.map_map, hinside, hown,
      List.pairwise_append, List.pairwise_append]
    refine ⟨⟨?_, ?_, ?_⟩, ihRest, ?_⟩
    -- The statement itself has one place if it is a function, and none otherwise.
    · cases functionOn? [s] <;> simp
    · rw [List.pairwise_map]
      exact ihBody.imp List.Lex.cons
    · intro first hfirst second hsecond
      obtain ⟨_, _, rfl⟩ := List.mem_map.mp hfirst
      obtain ⟨inner, hinner, rfl⟩ := List.mem_map.mp hsecond
      obtain ⟨⟨_, f⟩, hmem, rfl⟩ := List.mem_map.mp hinner
      obtain ⟨j, inner, rfl, -⟩ := mem_located.mp hmem
      exact .cons .nil
    · intro first hfirst second hsecond
      -- All places so far start with `i`, and those behind with a greater number.
      have hhead : ∃ inner, first = i :: inner := by
        rcases List.mem_append.mp hfirst with hown | hinside
        · obtain ⟨_, _, rfl⟩ := List.mem_map.mp hown
          exact ⟨[], rfl⟩
        · obtain ⟨inner, _, rfl⟩ := List.mem_map.mp hinside
          exact ⟨inner, rfl⟩
      obtain ⟨inner, rfl⟩ := hhead
      obtain ⟨⟨_, f⟩, hmem, rfl⟩ := List.mem_map.mp hsecond
      obtain ⟨j, inner, rfl, -⟩ := mem_located.mp hmem
      exact .rel (by omega)

/-! ## Passing over -/

theorem passesOver_nil (names : List (Option Text)) (base : List Text) :
    passesOver names base [] = false := rfl

theorem passesOver_cons (names : List (Option Text)) (base : List Text) (n : Text)
    (path : List Text) :
    passesOver names base (n :: path) =
      (names.contains (some (dotted (base ++ [n]))) || passesOver names (base ++ [n]) path) := by
  -- Of the paths behind `n` only the empty one stands for `n` itself.
  cases path with
  | nil => simp [passesOver]
  | cons m path =>
    simp only [passesOver, List.inits_cons, List.map_cons, List.map_map, List.any_cons, List.any_map,
      List.isEmpty_nil, List.append_assoc, List.cons_append, List.nil_append, Bool.not_true,
      Bool.false_and, Bool.false_or, List.isEmpty_cons, Bool.not_false, Bool.true_and]
    rfl

theorem passesOver_append (names : List (Option Text)) (base path rest : List Text) :
    passesOver names base (path ++ rest) =
      (passesOver names base path || passesOver names (base ++ path) rest) := by
  induction path generalizing base with
  | nil => rw [List.append_nil, passesOver_nil, Bool.false_or, List.nil_append]
  | cons n path ih =>
    rw [List.cons_append, passesOver_cons, passesOver_cons, ih, Bool.or_assoc, List.append_assoc]
    rfl

theorem result_skips (names : List (Option Text)) (path : List Text) :
    (skips (some names) path).result = .ok (names.contains (some (dotted path))) := by
  show (if names.contains (some (dotted path)) then _ else _ : Run Bool).result = _
  split
  · next h => exact congrArg Except.ok h.symm
  · next h => exact congrArg Except.ok (Bool.eq_false_iff.mpr h).symm

/-- A statement that is passed over holds no function; any other holds those of its body, behind
itself if it is one. -/
theorem result_functions (names : List (Option Text)) (base : List Text) (s : Statement) :
    (s.functions (some names) base).result =
      if passesOver names base s.scope then .ok []
      else (functionsOf (some names) (base ++ s.scope) s.body).result.map
        ((functionOn? [s]).toList.map (Function.under base) ++ ·) := by
  have hopen (r : Except Error (List Function)) : r = r.map ([] ++ ·) := by cases r <;> rfl
  cases s with
  | function name signature body =>
    rw [Statement.functions, Run.result_bind, result_skips, Statement.scope, Statement.body,
      passesOver_cons, passesOver_nil, Bool.or_false]
    show Run.result (if names.contains (some (dotted (base ++ [name]))) then _ else _) = _
    split
    · rfl
    · rw [Run.result_bind]
      cases (functionsOf (some names) (base ++ [name]) body).result <;> rfl
  | classDef name body =>
    rw [Statement.functions, Run.result_bind, result_skips, Statement.scope, Statement.body,
      passesOver_cons, passesOver_nil, Bool.or_false]
    show Run.result (if names.contains (some (dotted (base ++ [name]))) then _ else _) = _
    split
    · rfl
    · exact hopen _
  | coroutine body | compound body =>
    rw [Statement.functions, Statement.scope, List.append_nil]
    exact hopen _
  | string _ | other =>
    rw [Statement.functions, Statement.body, functionsOf]
    rfl

theorem map_under_nil (fs : List Function) : fs.map (Function.under []) = fs := List.map_id fs

theorem Function.under_comp_under (base scope : List Text) :
    Function.under base ∘ Function.under scope = Function.under (base ++ scope) := by
  funext f
  simp [Function.under]

theorem map_snd_located_cons (i : Nat) (s : Statement) (rest : List Statement) :
    (located i (s :: rest)).map Prod.snd = (functionOn? [s]).toList ++
      ((located 0 s.body).map Prod.snd).map (Function.under s.scope) ++
        (located (i + 1) rest).map Prod.snd := by
  rw [located, List.map_append, List.map_append, List.map_map, List.map_map, List.map_map]
  congr 2
  exact List.map_id _

theorem filter_functionOn? (names : List (Option Text)) (base : List Text) (s : Statement) :
    ((functionOn? [s]).toList.filter fun f => !passesOver names base f.path) =
      if passesOver names base s.scope then [] else (functionOn? [s]).toList := by
  cases hf : functionOn? [s] with
  | none => split <;> rfl
  | some f =>
    rw [Option.toList_some, List.filter_singleton, path_of_functionOn? hf]
    cases passesOver names base s.scope <;> rfl

theorem filter_map_under (names : List (Option Text)) (base scope : List Text)
    (fs : List Function) :
    ((fs.map (Function.under scope)).filter fun f => !passesOver names base f.path) =
      if passesOver names base scope then []
      else (fs.filter fun f => !passesOver names (base ++ scope) f.path).map
        (Function.under scope) := by
  rw [List.filter_map]
  show List.map _ (fs.filter fun f => !passesOver names base (scope ++ f.path)) = _
  simp only [passesOver_append]
  cases passesOver names base scope <;> simp

/-- The functions that are found are those that are not passed over.  The induction is over the bodies,
so that `base` grows by what a statement adds to the path. -/
theorem result_functionsOf (names : List (Option Text)) (base : List Text) (i : Nat)
    (statements : List Statement) :
    (functionsOf (some names) base statements).result =
      .ok ((((located i statements).map Prod.snd).filter fun f =>
        !passesOver names base f.path).map (Function.under base)) := by
  induction i, statements using located.induct generalizing base with
  | case1 i =>
    rw [functionsOf, located]
    rfl
  | case2 i s rest ihBody ihRest =>
    rw [functionsOf, Run.result_bind, result_functions, ihBody, map_snd_located_cons,
      List.filter_append, List.filter_append, filter_functionOn?, filter_map_under]
    -- Either all that stands in the statement is passed over, or nothing on the statement's account.
    cases passesOver names base s.scope with
    | true =>
      show Run.result (functionsOf (some names) base rest >>= fun fs => pure ([] ++ fs)) = _
      rw [Run.result_bind, ihRest]
      rfl
    | false =>
      show Run.result (functionsOf (some names) base rest >>= fun fs => pure (_ ++ fs)) = _
      rw [Run.result_bind, ihRest]
      show Except.ok _ = Except.ok _
      simp only [Bool.false_eq_true, if_false, List.map_append, List.map_map,
        Function.under_comp_under]

/-- With nothing to pass over, the function at each place is found once, in the order of the places;
and a list of names takes out those whose path is on it or goes through one that is. -/
theorem functionsOf_filters_listing (statements : List Statement) (names : List (Option Text)) :
    ∃ (fs : List Function) (places : List (List Nat)),
      (functionsOf (some []) [] statements).result = .ok fs ∧
      (functionsOf (some names) [] statements).result =
        .ok (fs.filter fun f => !passesOver names [] f.path) ∧
      places.Pairwise (List.Lex (· < ·)) ∧
      (∀ place, place ∈ places ↔ (functionAt? statements place).isSome) ∧
      fs.map some = places.map (functionAt? statements) := by
  refine ⟨(located 0 statements).map Prod.snd, (located 0 statements).map Prod.fst, ?_, ?_,
    pairwise_located 0 statements, ?_, ?_⟩
  · have hnone (path : List Text) : passesOver [] [] path = false := by simp [passesOver]
    rw [result_functionsOf [] [] 0, map_under_nil]
    simp [hnone]
  · rw [result_functionsOf names [] 0, map_under_nil]
  · intro place
    rw [List.mem_map, Option.isSome_iff_exists]
    constructor
    · rintro ⟨⟨_, f⟩, hmem, rfl⟩
      exact ⟨f, mem_located_zero.mp hmem⟩
    · rintro ⟨f, h⟩
      exact ⟨(place, f), mem_located_zero.mpr h, rfl⟩
  · rw [List.map_map, List.map_map]
    apply List.map_congr_left
    rintro ⟨place, f⟩ hmem
    exact (mem_located_zero.mp hmem).symm

end DocTidy.Source
