import DocTidy.Cli.Command
import DocTidy.Proofs.FileTree
import DocTidy.Proofs.Source.Tidy

/-!
# Checking before writing

A run that only checks and a run that writes go through the same files.  The writing run may meet a
file again that it has changed, through a repeated path or a detour, but by then the checking run
has listed that file.
-/

namespace DocTidy.Cli

open Text

/-- The options apart from listing and writing. -/
def Options.apart (o : Options) : Options := { o with check := false, write := false }

/-- Two command lines ask for the same, apart from listing and writing. -/
def AsksAlike (args args' : List Text) : Prop :=
  (readArguments args).map Options.apart = (readArguments args').map Options.apart

/-! ## One file -/

/-- The session after a file has been tidied. -/
def Session.afterTidying (s : Session) (o : Options) (file : Path) (source : Text)
    (tidied : Source.Tidied) : Session :=
  if tidied.text ≠ source then
    ⟨if o.write then s.tree.write file tidied.text else s.tree, s.needWork ++ [Path.toText file]⟩
  else if tidied.needsWork then { s with needWork := s.needWork ++ [Path.toText file] }
  else s

variable {matcher : Matcher} {format : CodeFormatter} {patterns : List SkipPattern}
  {o o' : Options} {s s' : Session} {file : Path} {tree : FileTree}

/-- How a file is tidied, if it is: none where it is passed over or has no text. -/
def tidied? (matcher : Matcher) (o : Options) (format : CodeFormatter)
    (patterns : List SkipPattern) (tree : FileTree) (file : Path) :
    Except Error (Option (Text × Source.Tidied)) :=
  (SkipPattern.skipsFile matcher (Path.toText file) patterns).bind fun skipped =>
    if skipped then .ok none
    else
      match tree.read? file with
      | none => .ok none
      | some source =>
        (SkipPattern.objectsIn matcher (Path.toText file) patterns).bind fun objects =>
          ((o.tidier format).tidy (some objects) (Path.toText file) source).result.map fun tidied =>
            some (source, tidied)

/-- The session after a visit that tidied the file, or passed it over. -/
def Session.after (s : Session) (o : Options) (file : Path) :
    Option (Text × Source.Tidied) → Session
  | none => s
  | some (source, tidied) => s.afterTidying o file source tidied

/-- A visit tidies the file and then updates the session. -/
theorem visit_result (matcher : Matcher) (o : Options) (format : CodeFormatter)
    (patterns : List SkipPattern) (s : Session) (file : Path) :
    (visit matcher o format patterns s file).result =
      (tidied? matcher o format patterns s.tree file).map (s.after o file) := by
  unfold visit tidied?
  rw [Run.result_bind, Run.result_ofExcept]
  cases SkipPattern.skipsFile matcher (Path.toText file) patterns with
  | error e => rfl
  | ok skipped =>
    cases skipped with
    | true => rfl
    | false =>
      simp only [Except.bind, Bool.false_eq_true, ↓reduceIte]
      cases s.tree.read? file with
      | none => rfl
      | some source =>
        dsimp only
        rw [Run.result_bind, Run.result_ofExcept]
        cases SkipPattern.objectsIn matcher (Path.toText file) patterns with
        | error e => rfl
        | ok objects =>
          simp only [Except.bind]
          rw [Run.result_bind]
          cases ((o.tidier format).tidy (some objects) (Path.toText file) source).result with
          | error e => rfl
          | ok tidied =>
            simp only [Except.bind, Except.map, Session.after, Session.afterTidying, bne_iff_ne]
            by_cases hchanged : tidied.text = source
            · cases tidied.needsWork <;> simp [hchanged]
            · cases o.showDiff <;> cases o.write <;> simp [hchanged, Except.map]

/-- Tidying a file depends only on the options apart from listing and writing, and on the file. -/
theorem tidied?_congr {tree' : FileTree} (ho : o'.apart = o.apart)
    (hread : tree'.read? file = tree.read? file) :
    tidied? matcher o' format patterns tree' file = tidied? matcher o format patterns tree file := by
  have htidier : o'.tidier format = o.tidier format := by
    change o'.apart.tidier format = o.apart.tidier format
    rw [ho]
  unfold tidied?
  rw [hread, htidier]

theorem visit_ok (h : (visit matcher o format patterns s file).result = .ok s') :
    ∃ found, tidied? matcher o format patterns s.tree file = .ok found ∧ s' = s.after o file found := by
  rw [visit_result] at h
  cases hfound : tidied? matcher o format patterns s.tree file with
  | error e =>
    rw [hfound] at h
    cases h
  | ok found =>
    rw [hfound] at h
    simp only [Except.map, Except.ok.injEq] at h
    exact ⟨found, rfl, h.symm⟩

theorem mem_needWork_after {name : Text} (h : name ∈ s.needWork) (o : Options) (file : Path)
    (found : Option (Text × Source.Tidied)) : name ∈ (s.after o file found).needWork := by
  cases found with
  | none => exact h
  | some pair =>
    unfold Session.after Session.afterTidying
    dsimp only
    split
    · exact List.mem_append_left _ h
    · split
      · exact List.mem_append_left _ h
      · exact h

/-- A session that does not write keeps its files. -/
theorem tree_after_of_not_write (h : o.write = false) (s : Session) (file : Path)
    (found : Option (Text × Source.Tidied)) : (s.after o file found).tree = s.tree := by
  cases found with
  | none => rfl
  | some pair =>
    unfold Session.after Session.afterTidying
    simp only [h, Bool.false_eq_true, ↓reduceIte]
    split
    · rfl
    · split <;> rfl

/-- The files change only by writing a text that differs from the source. -/
theorem tree_after_cases (s : Session) (o : Options) (file : Path)
    (found : Option (Text × Source.Tidied)) :
    (s.after o file found).tree = s.tree ∨
      ∃ source tidied, found = some (source, tidied) ∧ tidied.text ≠ source ∧
        (s.after o file found).tree = s.tree.write file tidied.text := by
  cases found with
  | none => exact .inl rfl
  | some pair =>
    obtain ⟨source, tidied⟩ := pair
    by_cases hchanged : tidied.text = source
    · left
      unfold Session.after Session.afterTidying
      simp only [hchanged, ne_eq, not_true_eq_false, ↓reduceIte]
      split <;> rfl
    · cases hwrite : o.write with
      | false => exact .inl (tree_after_of_not_write hwrite s file _)
      | true =>
        refine .inr ⟨source, tidied, rfl, hchanged, ?_⟩
        unfold Session.after Session.afterTidying
        simp [hchanged, hwrite]

/-- A text that comes out changed is listed under the name of its file. -/
theorem listed_of_changed {source : Text} {tidied : Source.Tidied} (h : tidied.text ≠ source)
    (s : Session) (o : Options) (file : Path) :
    Path.toText file ∈ (s.after o file (some (source, tidied))).needWork := by
  unfold Session.after Session.afterTidying
  simp [h]

/-! ## All files -/

/-- A checking session keeps track of a writing one: it has the files as they were, and it lists
every file that looks different by now. -/
structure Tracks (tree : FileTree) (checking writing : Session) : Prop where
  unchanged : checking.tree = tree
  paths : writing.tree.paths = tree.paths
  listed : ∀ path, writing.tree.lookup path ≠ tree.lookup path →
    ∃ file, tree.resolve? file = some path ∧ Path.toText file ∈ checking.needWork
  quiet : checking.needWork = [] → writing.tree = tree

theorem Tracks.visit {checking writing checking' writing' : Session}
    (h : Tracks tree checking writing) (ho : o'.apart = o.apart) (hwrite : o.write = false)
    (hc : (visit matcher o format patterns checking file).result = .ok checking')
    (hw : (Cli.visit matcher o' format patterns writing file).result = .ok writing') :
    Tracks tree checking' writing' := by
  obtain ⟨found, hfound, rfl⟩ := visit_ok hc
  obtain ⟨found', hfound', rfl⟩ := visit_ok hw
  rw [h.unchanged] at hfound
  -- Where the writing run finds the file as it was, both runs tidy it alike.
  have hsame : (∀ place, tree.resolve? file = some place →
      writing.tree.lookup place = tree.lookup place) → found' = found := by
    intro hcontent
    rw [tidied?_congr ho (FileTree.read?_congr h.paths hcontent), hfound] at hfound'
    exact (Except.ok.inj hfound').symm
  have hpaths : (writing.after o' file found').tree.paths = tree.paths := by
    obtain hkept | ⟨_, tidied, -, -, hwritten⟩ := tree_after_cases writing o' file found'
    · rw [hkept, h.paths]
    · rw [hwritten, FileTree.paths_write, h.paths]
  refine ⟨(tree_after_of_not_write hwrite checking file found).trans h.unchanged, hpaths, ?_, ?_⟩
  · intro path hpath
    -- Either this visit changed the file, or it was listed before.
    by_cases hbefore : writing.tree.lookup path = tree.lookup path
    · obtain hkept | ⟨source, tidied, rfl, hchanged, hwritten⟩ :=
        tree_after_cases writing o' file found'
      · exact absurd (hkept ▸ hbefore) hpath
      · have hplace : tree.resolve? file = some path := by
          rw [← FileTree.resolve?_congr h.paths]
          refine Decidable.of_not_not fun hne => hpath ?_
          rw [hwritten, FileTree.lookup_write_of_ne hne, hbefore]
        have hfound_eq : some (source, tidied) = found := by
          apply hsame
          intro place hresolve
          rw [hplace] at hresolve
          rw [← Option.some.inj hresolve]
          exact hbefore
        exact ⟨file, hplace, hfound_eq ▸ listed_of_changed hchanged checking o file⟩
    · obtain ⟨f, hresolve, hmem⟩ := h.listed path hbefore
      exact ⟨f, hresolve, mem_needWork_after hmem o file found⟩
  · intro hquiet
    -- Names are only added, so nothing was listed before either.
    have hquiet_before : checking.needWork = [] := by
      rw [List.eq_nil_iff_forall_not_mem]
      intro name hmem
      have := mem_needWork_after hmem o file found
      simp [hquiet] at this
    have htree : writing.tree = tree := h.quiet hquiet_before
    have hfound_eq : found' = found := hsame fun place _ => by rw [htree]
    obtain hkept | ⟨source, tidied, rfl, hchanged, -⟩ := tree_after_cases writing o' file found'
    · rw [hkept, htree]
    · have hmem := listed_of_changed hchanged checking o file
      rw [hfound_eq, hquiet] at hmem
      exact absurd hmem List.not_mem_nil

/-- The texts of both runs start with the same files, so the final sessions are related. -/
theorem runOptions_tracks {outcome outcome' : Outcome} (ho : o'.apart = o.apart)
    (hwrite : o.write = false) (hc : (runOptions matcher o format patterns tree).result = .ok outcome)
    (hw : (runOptions matcher o' format patterns tree).result = .ok outcome') :
    ∃ checking writing, Tracks tree checking writing ∧
      outcome.exit = o.exit checking.needWork ∧ outcome'.files = writing.tree := by
  have hfiles : o'.paths = o.paths := by
    change o'.apart.paths = o.apart.paths
    rw [ho]
  unfold runOptions at hc hw
  rw [hfiles] at hw
  rw [Run.result_bind_eq_ok] at hc hw
  obtain ⟨checking, hchecking, hc⟩ := hc
  obtain ⟨writing, hwriting, hw⟩ := hw
  rw [Run.result_pure, Except.ok.injEq] at hc hw
  refine ⟨checking, writing, ?_, hc ▸ rfl, hw ▸ rfl⟩
  refine Run.foldlM_related (fun _ _ _ _ _ hR => hR.visit ho hwrite) _ _ _ _ _ ?_ hchecking hwriting
  exact ⟨rfl, rfl, fun _ h => absurd rfl h, fun _ => rfl⟩

/-- The text that a checking run ends with when some files need work. -/
def needWorkText (names : List Text) : Text :=
  "Some files/functions need updates:\n - " ++ "\n - ".toList.intercalate names

theorem exit_of_check (h : o.check = true) (names : List Text) :
    o.exit names = if names.isEmpty then .status 0 else .complaint (needWorkText names) := by
  unfold Options.exit needWorkText
  rw [h]
  cases names <;> rfl

/-- A command line that asks for no run leaves the files alone; any other is run with the patterns of
the tree. -/
theorem run_cases {args : List Text} {outcome : Outcome}
    (h : (runMatching matcher format args tree).result = .ok outcome) :
    (∃ stop, readArguments args = .error stop ∧ outcome.files = tree) ∨
      ∃ o patterns, readArguments args = .ok o ∧ skipPatterns tree = .ok patterns ∧
        (runOptions matcher o format patterns tree).result = .ok outcome := by
  unfold runMatching at h
  rw [Run.result_bind_eq_ok] at h
  obtain ⟨patterns, hpatterns, h⟩ := h
  rw [Run.result_ofExcept] at hpatterns
  cases hargs : readArguments args with
  | error stop =>
    rw [hargs] at h
    refine .inl ⟨stop, rfl, ?_⟩
    rw [← Except.ok.inj h]
    cases stop <;> rfl
  | ok o =>
    rw [hargs] at h
    exact .inr ⟨o, patterns, rfl, hpatterns, h⟩

/-- **Checking is sound and complete for writing**, whatever patterns mean.  Where a run that only
checks has nothing to report, the same run with writing changes no file; every file that the writing
run changes is named in the report of the checking run; and a text that comes out changed is flagged. -/
theorem check_reports_every_write {checkArgs writeArgs : List Text} {checked written : Outcome}
    (halike : AsksAlike checkArgs writeArgs)
    (hcheck : ∀ o, readArguments checkArgs = .ok o → o.check = true ∧ o.write = false)
    (hc : (runMatching matcher format checkArgs tree).result = .ok checked)
    (hw : (runMatching matcher format writeArgs tree).result = .ok written) :
    (checked.exit = .status 0 → written.files = tree) ∧
      (∀ path, written.files.lookup path ≠ tree.lookup path →
        ∃ names file, checked.exit = .complaint (needWorkText names) ∧
          Path.toText file ∈ names ∧ tree.resolve? file = some path) ∧
      ∀ (tidier : Source.Tidier) skip name source tidied,
        (tidier.tidy skip name source).result = .ok tidied → tidied.text ≠ source →
          tidied.needsWork = true := by
  refine and_assoc.mp ⟨?_, fun _ _ _ _ _ => Source.Tidier.tidy_flagged⟩
  unfold AsksAlike at halike
  obtain ⟨stop', -, hfiles⟩ | ⟨o', patterns', hargs', hpatterns', hw⟩ := run_cases hw
  · exact ⟨fun _ => hfiles, fun path h => absurd (by rw [hfiles]) h⟩
  obtain ⟨stop, hargs, -⟩ | ⟨o, patterns, hargs, hpatterns, hc⟩ := run_cases hc
  · -- Command lines that ask for the same are both read or both refused.
    rw [hargs, hargs'] at halike
    cases halike
  obtain rfl : patterns = patterns' := Except.ok.inj (hpatterns.symm.trans hpatterns')
  obtain ⟨hcheck, hwrite⟩ := hcheck o hargs
  have ho : o'.apart = o.apart := by
    rw [hargs, hargs'] at halike
    exact (Except.ok.inj halike).symm
  obtain ⟨checking, writing, htracks, hexit, hfiles⟩ := runOptions_tracks ho hwrite hc hw
  rw [exit_of_check hcheck] at hexit
  rw [hfiles]
  constructor
  · intro hstatus
    rw [hexit] at hstatus
    apply htracks.quiet
    cases hnames : checking.needWork with
    | nil => rfl
    | cons name names => simp [hnames] at hstatus
  · intro path hpath
    obtain ⟨file, hresolve, hmem⟩ := htracks.listed path hpath
    refine ⟨checking.needWork, file, ?_, hmem, hresolve⟩
    rw [hexit]
    simp [List.ne_nil_of_mem hmem]

/-- A file with a heading that is to be spelt out. -/
def abbreviatedNotes : FileTree :=
  [(["a.py"], .text "def f():\n \"\"\"A\n\n Note\n ----\n n\n \"\"\"\n")]

/-- The file is named twice, so that the writing run meets it again after the change. -/
theorem check_reports_abbreviated_notes :
    ∃ checked written,
      (run (fun _ => none) ["--check", "--no-diff", "a.py", "./a.py"] abbreviatedNotes).result =
        .ok checked ∧
      (run (fun _ => none) ["--write", "--no-diff", "a.py", "./a.py"] abbreviatedNotes).result =
        .ok written ∧
      written.files.lookup ["a.py".toList] ≠ abbreviatedNotes.lookup ["a.py".toList] ∧
      ∃ names file, checked.exit = .complaint (needWorkText names) ∧
        Path.toText file ∈ names ∧ abbreviatedNotes.resolve? file = some ["a.py".toList] := by
  have hcheck : readArguments ["--check", "--no-diff", "a.py", "./a.py"] =
      .ok { paths := ["a.py", "./a.py"], check := true, showDiff := false } := rfl
  have hwrite : readArguments ["--write", "--no-diff", "a.py", "./a.py"] =
      .ok { paths := ["a.py", "./a.py"], write := true, showDiff := false } := rfl
  have hc : (run (fun _ => none) ["--check", "--no-diff", "a.py", "./a.py"]
      abbreviatedNotes).result =
      .ok ⟨.complaint (needWorkText ["a.py", "a.py"]), [], [], abbreviatedNotes⟩ :=
    Run.eq_ok_of_toOption (by decide +kernel)
  have hw : (run (fun _ => none) ["--write", "--no-diff", "a.py", "./a.py"]
      abbreviatedNotes).result =
      .ok ⟨.finished, [], [],
        [(["a.py"], .text "def f():\n \"\"\"A\n\n Notes\n -----\n n\n \"\"\"\n")]⟩ :=
    Run.eq_ok_of_toOption (by decide +kernel)
  refine ⟨_, _, hc, hw, by decide +kernel, ?_⟩
  refine (check_reports_every_write ?_ ?_ hc hw).2.1 ["a.py"] (by decide +kernel)
  · rw [AsksAlike, hcheck, hwrite]
    rfl
  · intro o h
    rw [hcheck, Except.ok.injEq] at h
    subst h
    exact ⟨rfl, rfl⟩

end DocTidy.Cli
