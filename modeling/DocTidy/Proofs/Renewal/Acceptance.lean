import DocTidy.Proofs.Renewal.Parameters
import DocTidy.Proofs.Renewal.Showing

/-!
# Which docstrings are renewed

A docstring that can be read need not be renewed.  `renews_iff_renewable` names the four stages at
which that can fail: a name may not be divisible, only an empty name may be left over, a section may
have no printer, and nothing may be left.  Where parameters are not compared with the signature, a
docstring is reprinted as it was read, unless it documents a parameter: `renew_without_fixers`.
-/

namespace DocTidy

open Text

namespace Document

variable {d d' : Document}

theorem Refits.printable_iff (hd : d.Sound) (h : d.Refits d') (name : Text) :
    d'.Printable name ↔ d.Printable name := by
  unfold Printable
  refine exists_congr fun s => and_congr_right fun _ => ?_
  by_cases hs : s = .parameters
  · -- Parameters can be printed whatever they have become.
    subst hs
    exact iff_of_true (fun c hc => Printer.canPrint_of_fits (h.sound.fits _ c hc) (by simp))
      fun c hc => Printer.canPrint_of_fits (hd.fits _ c hc) (by simp)
  · rw [contents?_congr (h.kept s hs)]

/-- There are sections with contents, other than parameters that are all removed. -/
def StaysShown (sig : Signature) (d : Document) : Prop :=
  ∃ s, s.title ∈ d.order ∧ (d.contents? s).isSome = true ∧
    (s = .parameters → Fixer.removesAll sig (d.params.map Param.divided) = false)

theorem Refits.isShown_iff {sig : Signature} (h : d.Refits d') (hd : d.Sound)
    (hlost : d'.params = [] ↔
      d.params = [] ∨ Fixer.removesAll sig (d.params.map Param.divided) = true) :
    d'.IsShown ↔ d.StaysShown sig := by
  unfold IsShown StaysShown
  rw [h.order]
  refine exists_congr fun s => and_congr_right fun _ => ?_
  by_cases hs : s = .parameters
  · subst hs
    rw [isSome_contents?_parameters h.sound, isSome_contents?_parameters hd, Ne, hlost]
    simp [not_or]
  · rw [contents?_congr (h.kept s hs)]
    simp [hs]

end Document

namespace Renewal

open Document

variable {r : Renewal} {subject : Subject} {level : Nat} {docstring body : Text} {d : Document}

/-! ## What it takes to renew a docstring -/

/-- A docstring that was read as `d` can be renewed: its parameters can be fixed, its sections can be
printed, and a section or at least the frame shows in the end. -/
structure Renewable (subject : Subject) (docstring : Text) (d : Document) : Prop where
  fixable : Fixable subject.signature d.params
  printable : ∀ name ∈ d.order, d.Printable name
  shown : d.StaysShown subject.signature ∨ (Frame.ofDocstring docstring).showsAlone = true

/-- **Which docstrings are renewed.**  Of those that can be read, all of a single line, and of the
others exactly the renewable ones. -/
theorem renews_iff_renewable (subject : Subject) (level : Nat) (hformat : r.format? = none)
    (hfixers : r.settings.runFixers = true)
    (hplaceholder : r.settings.withPlaceholder.isSome = true)
    (hargs : (subject.signature.args.map (·.name)).Nodup)
    (hread : (Document.read r.format? (dedentDocstring docstring)).result = .ok d) :
    (∃ new, (r.renew subject level docstring).result = .ok new) ↔
      (IsLong docstring → Renewable subject docstring d) := by
  rw [hformat] at hread
  by_cases hlong : IsLong docstring
  · have hd := sound_read hread
    simp only [hlong, forall_const, renew_eq_ok_iff hlong]
    obtain ⟨hfails, hunfixable⟩ | ⟨d', hasPlaceholder, mismatch, hfixed, hfixable, hrefits, hlost⟩ :=
      fixed_cases hformat hfixers hplaceholder hargs hread
    · -- No document comes out of fixing, and the docstring is not renewable for that reason.
      constructor
      · rintro ⟨new, d', hasPlaceholder, mismatch, body, hfixed, -⟩
        exact absurd hfixed (hfails _)
      · intro hrenewable
        exact absurd hrenewable.fixable hunfixable
    · -- Fixing keeps all that printing and the frame ask for, but for the parameters.
      have hlegible : d'.Legible := (legible_read hread).refits hrefits
      have hprints : (∃ body, (r.printDocument d').result = .ok body) ↔
          ∀ name ∈ d.order, d.Printable name := by
        simp only [printDocument_succeeds_iff hrefits.sound.isComplete, hrefits.order,
          hrefits.printable_iff hd]
      have hshown := hrefits.isShown_iff hd hlost
      constructor
      · rintro ⟨new, d'', hp, mm, body, hfixed', hprint, hne, -⟩
        rw [hfixed, Except.ok.injEq] at hfixed'
        obtain ⟨rfl, -⟩ := Prod.mk.inj hfixed'
        refine ⟨hfixable, hprints.mp ⟨body, hprint⟩, ?_⟩
        rw [← hshown]
        exact (fill_ne_nil_iff _ level hlegible hprint).mp hne
      · rintro ⟨-, hprintable, hleft⟩
        obtain ⟨body, hprint⟩ := hprints.mpr hprintable
        rw [← hshown] at hleft
        exact ⟨_, d', hasPlaceholder, mismatch, body, hfixed, hprint,
          (fill_ne_nil_iff _ level hlegible hprint).mpr hleft, rfl⟩
  · -- A single line is passed over before anything can fail.
    simp only [hlong, false_imp_iff, iff_true]
    unfold renew
    rw [if_pos (Nat.not_lt.mp hlong)]
    exact ⟨_, rfl⟩

/-- A function with one parameter. -/
def single : Subject := ⟨"m.py", "f", ⟨[⟨"x", .absent⟩], none, none⟩⟩

/-- One parameter has its type in its name, and another one does not exist. -/
def mistyped : Text :=
  "A\n\n    Parameters\n    ----------\n    x: int\n        n\n    y\n        m\n    "

theorem mistyped_renewed :
    ∃ d, (Document.read none (dedentDocstring mistyped)).result = .ok d ∧
      Renewable single mistyped d ∧ ∃ new, (plain.renew single 4 mistyped).result = .ok new := by
  obtain ⟨d, hread, hfacts⟩ : ∃ d, (Document.read none (dedentDocstring mistyped)).result = .ok d ∧
      (d.order, d.params, (d.contents? .summary).isSome) =
        (["Summary".toList, "Parameters".toList],
          [⟨"x: int", [], ["n".toList]⟩, ⟨"y", [], ["m".toList]⟩], true) :=
    Run.exists_ok_of_toOption (by decide +kernel)
  obtain ⟨horder, hparams, hsummary⟩ : d.order = ["Summary".toList, "Parameters".toList] ∧
      d.params = [⟨"x: int", [], ["n".toList]⟩, ⟨"y", [], ["m".toList]⟩] ∧
      (d.contents? .summary).isSome = true := by
    simpa using hfacts
  have hrenewable : Renewable single mistyped d := by
    refine ⟨⟨?_, ?_⟩, ?_, .inl ⟨.summary, ?_, hsummary, by simp⟩⟩
    · rw [hparams]
      decide
    · rw [hparams]
      decide
    · rw [horder]
      intro name hname
      have hfits := (sound_read hread).fits
      obtain rfl | rfl : name = Section.summary.title ∨ name = Section.parameters.title :=
        (List.mem_cons.mp hname).imp id List.mem_singleton.mp
      · exact ⟨.summary, rfl, fun c hc => Printer.canPrint_of_fits (hfits _ c hc) (by simp)⟩
      · exact ⟨.parameters, rfl, fun c hc => Printer.canPrint_of_fits (hfits _ c hc) (by simp)⟩
    · rw [horder]
      decide
  have hiff := renews_iff_renewable (r := plain) single 4 rfl rfl rfl (by decide) hread
  exact ⟨d, hread, hrenewable, hiff.mpr fun _ => hrenewable⟩

/-- A generator that takes what it is sent. -/
def received : Text :=
  "A\n\n    Yields\n    ------\n    int\n\n    Receives\n    --------\n    int\n    "

/-- **Not everything that is read is renewed.**  What a generator receives cannot be printed. -/
theorem received_not_renewed :
    (∃ d, (Document.read none (dedentDocstring received)).result = .ok d) ∧
      (plain.renew bare 4 received).result = .error (.noPrinter Section.receives.title) := by
  constructor
  · obtain ⟨d, hread, -⟩ : ∃ d, (Document.read none (dedentDocstring received)).result = .ok d ∧
        d.order = ["Summary".toList, "Yields".toList, "Receives".toList] :=
      Run.exists_ok_of_toOption (by decide +kernel)
    exact ⟨d, hread⟩
  · exact Run.eq_error_of_error? (by decide +kernel)

/-! ## Without fixers -/

/-- **Renewing without fixers.**  A docstring without parameters is reprinted as the document that
was read; one with parameters is refused. -/
theorem renew_without_fixers (subject : Subject) (level : Nat)
    (hfixers : r.settings.runFixers = false) (hlong : IsLong docstring)
    (hread : (Document.read r.format? (dedentDocstring docstring)).result = .ok d)
    (hprint : (r.printDocument d).result = .ok body) (hbody : body ≠ []) :
    (r.renew subject level docstring).result =
      if d.params = [] then
        .ok ⟨(Frame.ofDocstring docstring).fill level body, d, some false,
          (Frame.ofDocstring docstring).fill level body != docstring⟩
      else .error (.tooFewParts 3 2) := by
  -- A formatter may have changed the examples; all else is as it is read without one.
  obtain ⟨d₀, hread₀, hformatted⟩ := read_formatted r.format? _ d hread
  have hfixed : (r.fixed subject docstring).result = (r.fixParams subject d).result := by
    rw [fixed, Run.result_bind, result_readDocstring subject hread, hfixers]
    rfl
  have hparams : d.get? Section.parameters.title = d₀.get? Section.parameters.title :=
    hformatted.kept _ (.inl (by decide))
  have hknows : d.KnowsParams := by
    have := (sound_read hread₀).knowsParams
    rw [KnowsParams, Document.get, params, hparams]
    exact this
  rw [renew_eq_bind hlong, hfixed]
  by_cases hnil : d.params = []
  · have hlegible : d.Legible := (legible_read hread₀).formatted hformatted
    have hshown : d.IsShown := by
      obtain ⟨hempty, -⟩ | ⟨-, hshown⟩ := printDocument_shows hlegible hprint
      · exact absurd hempty hbody
      · exact hshown
    have hne := (fill_ne_nil_iff (Frame.ofDocstring docstring) level hlegible hprint).mpr (.inl hshown)
    rw [if_pos hnil, fixParams_of_nil hknows hnil]
    simp only [Except.bind, hprint]
    rw [if_neg (by simpa using hne), Bool.false_or]
  · -- The fixer hands the parameters back without a verdict, and that is not accepted.
    have hfix : (Fixer.fix r.settings (subject.file ++ ":" ++ subject.function)
        subject.signature.names subject.signature d.params).result = .ok ⟨d.params, false, none⟩ := by
      unfold Fixer.fix
      rw [hfixers]
      rfl
    rw [if_neg hnil, fixParams_of_ne_nil hknows hnil, hfix]
    rfl

/-- Renewing without fixers and without a formatter. -/
def reprinting : Renewal := ⟨none, { runFixers := false }, false⟩

/-- A heading that is an abbreviation. -/
def noted : Text := "A\n\n    Note\n    ----\n    n\n    "

theorem noted_reprinted :
    ∃ d new, (Document.read none (dedentDocstring noted)).result = .ok d ∧
      (reprinting.renew single 4 noted).result = .ok new ∧ new.document = d ∧
      new.text = "A\n\n    Notes\n    -----\n    n\n    " := by
  obtain ⟨d, hread, hfacts⟩ : ∃ d, (Document.read none (dedentDocstring noted)).result = .ok d ∧
      (d.params, (reprinting.printDocument d).result.toOption) =
        ([], some "A\n\nNotes\n-----\nn\n".toList) :=
    Run.exists_ok_of_toOption (by decide +kernel)
  obtain ⟨hparams, hprint⟩ := Prod.mk.inj hfacts
  have hrenew := renew_without_fixers (r := reprinting) single 4 rfl (by decide) hread
    (Run.eq_ok_of_toOption hprint) (by decide)
  have htext : (Frame.ofDocstring noted).fill 4 "A\n\nNotes\n-----\nn\n" =
      "A\n\n    Notes\n    -----\n    n\n    ".toList := by
    decide
  rw [if_pos hparams] at hrenew
  exact ⟨d, _, hread, hrenew, rfl, htext⟩

/-- One parameter, as its function has it. -/
def described : Text := "A\n\n    Parameters\n    ----------\n    x : int\n        n\n    "

/-- **Documented parameters are refused** where they are not compared with the signature. -/
theorem described_not_reprinted :
    ∃ d body, IsLong described ∧ (Document.read none (dedentDocstring described)).result = .ok d ∧
      (reprinting.printDocument d).result = .ok body ∧ body ≠ [] ∧
      (reprinting.renew single 4 described).result = .error (.tooFewParts 3 2) := by
  obtain ⟨d, hread, hprint⟩ : ∃ d, (Document.read none (dedentDocstring described)).result = .ok d ∧
      (reprinting.printDocument d).result.toOption =
        some "A\n\nParameters\n----------\nx : int\n    n\n".toList :=
    Run.exists_ok_of_toOption (by decide +kernel)
  exact ⟨d, _, by decide, hread, Run.eq_ok_of_toOption hprint, by decide,
    Run.eq_error_of_error? (by decide +kernel)⟩

end Renewal
end DocTidy
