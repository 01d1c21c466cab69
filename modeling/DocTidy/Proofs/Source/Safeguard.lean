import DocTidy.Proofs.Renewal.Exact
import DocTidy.Proofs.Source.Tidy

/-!
# What a docstring means after a pass

A checked pass renews every docstring twice, so that none is replaced by one that means something
else.  But the second renewal starts from the old docstring, not from the new one, and finds nothing
(`renew_result`): checked or not, a new docstring means the same exactly when the document it was
printed from is faithful to its frame.
-/

namespace DocTidy.Source.Tidier

open Text

variable {o : Tidier} {skip : SkipList} {file source : Text} {t : Tidied} {f : Function}
  {functions : List Function} {docstring : StringStatement}

/-- **When a pass keeps the meaning of a docstring.**  A strict pass that succeeds has a new text for
the docstring of every function.  Where that takes the place of a docstring without other white space than
spaces and newlines, it has no other white space either and reads as the document it was printed from, apart
from empty sections, exactly if that document is faithful to its frame. -/
theorem tidy_keeps_meaning_iff (hformat : o.renewal.format? = none) (hstrict : o.strict = true)
    (h : (o.tidy skip file source).result = .ok t)
    (hfunctions : functionsIn skip source = .ok functions) (hf : f ∈ functions)
    (hdoc : f.docstring? = some docstring) :
    ∃ new, (o.renew file f docstring).result = .ok new ∧
      (Replaces docstring.value new → docstring.value.IsPlain →
        ((new.text.IsPlain ∧ ∃ d, (Document.read none (dedentDocstring new.text)).result = .ok d ∧
            d.filledSections = new.document.filledSections) ↔
          new.document.IsFaithful o.renewal (Frame.ofDocstring docstring.value))) := by
  obtain ⟨functions', hfunctions', hfold⟩ := tidy_ok h
  obtain rfl : functions = functions' := Except.ok.inj (hfunctions.symm.trans hfunctions')
  obtain ⟨new, hnew⟩ := exists_renewed hstrict hdoc hf hfold
  refine ⟨new, hnew, fun hreplaces hplain => ?_⟩
  rw [renew_result] at hnew
  exact Renewal.reads_iff_isFaithful hformat hnew hreplaces.1 hplain

/-- The type of a parameter stands next to its name. -/
def scaledDocstring : StringStatement :=
  ⟨"A\n\n Parameters\n ----------\n x: int\n   d\n\n See Also\n --------\n g : h\n ", ⟨2, 1, 11⟩, 86⟩

def scaled : Function :=
  ⟨["f"], "f", ⟨[⟨"x", .absent⟩], none, none⟩, some scaledDocstring⟩

def scaledSource : Text :=
  "def f(x):\n \"\"\"A\n\n Parameters\n ----------\n x: int\n   d\n\n See Also\n --------\n g : h\n \"\"\"\n"

/-- The new docstring. -/
def scaledText : Text :=
  "A\n\n Parameters\n ----------\n x : int\n     d\n\n See Also\n --------\n g : h\n "

/-- Name and type of the parameter are set apart, and all sections read as they were. -/
theorem scaled_keeps_meaning :
    ∃ new, (careful.renew "m.py" scaled scaledDocstring).result = .ok new ∧ new.text = scaledText ∧
      Replaces scaledDocstring.value new ∧
      ∃ d, (Document.read none (dedentDocstring new.text)).result = .ok d ∧
        d.filledSections = new.document.filledSections := by
  have hfunctions : functionsIn (some []) scaledSource = .ok [scaled] :=
    Run.eq_ok_of_toOption (by decide +kernel)
  obtain ⟨t, htidy, -⟩ : ∃ t, (careful.tidy (some []) "m.py" scaledSource).result = .ok t ∧
      t.needsWork = true := Run.exists_ok_of_toOption (by decide +kernel)
  obtain ⟨new, hnew, hreads⟩ := tidy_keeps_meaning_iff (o := careful) rfl rfl htidy hfunctions
    (List.mem_singleton.mpr rfl) rfl
  obtain ⟨new', hnew', hfacts⟩ : ∃ new, (careful.renewal.renew ⟨"m.py", scaled.name, scaled.signature⟩
      scaledDocstring.position.column scaledDocstring.value).result = .ok new ∧
        (new.text, decide (new.document.IsFaithful careful.renewal (Frame.ofDocstring scaledDocstring.value))) =
          (scaledText, true) := Run.exists_ok_of_toOption (by decide +kernel)
  rw [← renew_result, hnew, Except.ok.injEq] at hnew'
  subst hnew'
  obtain ⟨htext, hfaithful⟩ := Prod.mk.inj hfacts
  have hreplaces : Replaces scaledDocstring.value new := by
    unfold Replaces
    rw [htext]
    decide +kernel
  exact ⟨new, hnew, htext, hreplaces,
    ((hreads hreplaces (by decide +kernel)).mpr (of_decide_eq_true hfaithful)).2⟩

/-- Two functions have one description, in which there is a colon. -/
def pairedDocstring : StringStatement :=
  ⟨"A\n\n See Also\n --------\n a, b : c : d\n ", ⟨2, 1, 10⟩, 54⟩

def paired : Function := ⟨["f"], "f", ⟨[], none, none⟩, some pairedDocstring⟩

def pairedSource : Text :=
  "def f():\n \"\"\"A\n\n See Also\n --------\n a, b : c : d\n \"\"\"\n"

/-- The new docstring. -/
def pairedText : Text := "A\n\n See Also\n --------\n a, b :\n     c : d\n "

/-- How many links a document has, as data. -/
def linkCount (d : Document) : Option Nat :=
  ((d.filledSections.lookup Section.seeAlso.title).bind Datum.parts?).map List.length

/-- **A checked pass changes the meaning of a docstring.**  The description is put on a line of its
own, where it reads as a link. -/
theorem paired_loses_meaning :
    functionsIn (some []) pairedSource = .ok [paired] ∧
      ∃ t new, (careful.tidy (some []) "m.py" pairedSource).result = .ok t ∧
        t.text ≠ pairedSource ∧
        (careful.renew "m.py" paired pairedDocstring).result = .ok new ∧
        Replaces pairedDocstring.value new ∧ new.hasPlaceholder = some false ∧
        ¬ ∃ d, (Document.read none (dedentDocstring new.text)).result = .ok d ∧
          d.filledSections = new.document.filledSections := by
  refine ⟨Run.eq_ok_of_toOption (by decide +kernel), ?_⟩
  obtain ⟨t, htidy, htext⟩ : ∃ t, (careful.tidy (some []) "m.py" pairedSource).result = .ok t ∧
      decide (t.text ≠ pairedSource) = true := Run.exists_ok_of_toOption (by decide +kernel)
  obtain ⟨new, hnew, hfacts⟩ : ∃ new, (careful.renew "m.py" paired pairedDocstring).result = .ok new ∧
      (new.text, new.hasPlaceholder, linkCount new.document) = (pairedText, some false, some 1) :=
    Run.exists_ok_of_toOption (by decide +kernel)
  obtain ⟨htext', hplaceholder, hcount⟩ :
      new.text = pairedText ∧ new.hasPlaceholder = some false ∧ linkCount new.document = some 1 := by
    simpa using hfacts
  refine ⟨t, new, htidy, of_decide_eq_true htext, hnew, ?_, hplaceholder, ?_⟩
  · unfold Replaces
    rw [htext']
    decide +kernel
  · rintro ⟨d, hread, hsame⟩
    obtain ⟨d', hread', hcount'⟩ : ∃ d,
        (Document.read none (dedentDocstring pairedText)).result = .ok d ∧ linkCount d = some 2 :=
      Run.exists_ok_of_toOption (by decide +kernel)
    rw [htext'] at hread
    obtain rfl : d = d' := Except.ok.inj (hread.symm.trans hread')
    rw [linkCount, hsame, ← linkCount, hcount] at hcount'
    cases hcount'

end DocTidy.Source.Tidier
