/-
# Token names of sessions

A value is accepted for a name that is on record for its segment, so that the record has to go with the
template and with the delimiters.  Each of the two changes without the other: reading replaces the
template under the delimiters in force, and new delimiters leave the template.  Whatever changes one
of them makes the record anew or drops it.

A load that breaks off is the exception.  It leaves the names of the lines that it has read, with no
template to go with them.

* `Step.recordsNames`: a step that does not break off keeps the record right;
* `known_run`: the record after any operations.
-/
import Stencil.Proofs.Session.Sound
import Stencil.Proofs.Template.TokenNames

namespace Stencil

/-- Changes of a segment that starting over undoes do not show in the token names. -/
theorem Template.tokenNames_modify (d : Delimiters) (t : Template) (name : String)
    {f : Segment → Segment} (hf : ∀ seg, (f seg).unrendered = seg.unrendered) :
    (t.modify name f).tokenNames d = t.tokenNames d := by
  rw [← tokenNames_startOver, startOver_modify t name hf, tokenNames_startOver]

namespace Session

/-- What is on record are the token names of the segments, with the delimiters in force. -/
def RecordsNames (s : Session) : Prop := s.tokens.known = s.template.tokenNames s.delimiters

/-- What keeps the template and the delimiters keeps the token names. -/
theorem Keeps.tokenNames {s s' : Session} (h : s.Keeps s') :
    s'.template.tokenNames s'.delimiters = s.template.tokenNames s.delimiters := by
  rw [← Template.tokenNames_startOver, h.template, Template.tokenNames_startOver, h.delimiters]

theorem Step.recordsNames {s s' : Session} (hstep : s.Step s' none) (hs : s.Sound)
    (h : s.RecordsNames) : s'.RecordsNames := by
  unfold RecordsNames at h ⊢
  cases hstep with
  | keep hkeep =>
    rw [hkeep.known, hkeep.tokenNames, h]
  | drop _ hnil htokens =>
    rw [hnil, htokens]
    rfl
  | rescan _ htemplate _ hknown =>
    rw [hknown, htemplate]
    exact Tokens.known_rescan s.tokens s'.delimiters hs.nodup
  -- reading records the names of each line as it goes
  | @load d _ _ _ hfresh hread htemplate htokens =>
    have hnone : d.tokens.known = [] := by rw [hfresh]
    rw [htemplate, htokens]
    exact Draft.known_read hnone hread

/-- **The names on record are those of the template**, after any operations none of which breaks off:
there is a record for exactly the segments of the template, and it holds the valid token names that
their text lines show under the delimiters in force, each once. -/
theorem known_run {settings : Settings} {ops : List Operation}
    (hops : (ofSettings settings).aborts ops = []) {s : Session}
    (hs : (ofSettings settings).run ops = s) :
    s.tokens.known.keys = s.template.keys ∧
      ∀ p ∈ s.template, ∃ names, s.tokens.known.get? p.1 = some names ∧ names.Nodup ∧
        ∀ name, name ∈ names ↔ ∃ item ∈ p.2.items, ∃ body,
          .token body ∈ scan s.delimiters item.text.toList ∧ Fragment.nameOf body = name ∧
            isName name = true := by
  -- the record is made anew right only where names are distinct, so soundness goes along
  have hkeeps : s.Sound ∧ s.RecordsNames := by
    have hstart : (ofSettings settings).Sound ∧ (ofSettings settings).RecordsNames :=
      ⟨.of_nil rfl, rfl⟩
    rw [← hs]
    refine run_induction_of_noAbort (P := fun s => s.Sound ∧ s.RecordsNames) ?_ hstart hops
    rintro s op hop ⟨hsound, hrecord⟩
    have hstep := perform_step s op
    rw [hop] at hstep
    exact ⟨hstep.sound hsound, hstep.recordsNames hsound hrecord⟩
  obtain ⟨hsound, hrecord⟩ := hkeeps
  rw [hrecord]
  refine ⟨Template.keys_tokenNames _ _, fun p hp => ⟨p.2.tokenNames s.delimiters, ?_, ?_, ?_⟩⟩
  · rw [Template.get?_tokenNames, Table.get?_eq_some_of_mem hsound.nodup hp]
    rfl
  · exact p.2.nodup_tokenNames s.delimiters
  · intro name
    simp only [Segment.mem_tokenNames, Tokens.mem_namesIn]

/-- A name that is found again, one with a case flag and one that is not valid, under delimiters that
were changed after the load. -/
theorem known_run_changed :
    ∃ ops s, (ofSettings {}).aborts ops = [] ∧ (ofSettings {}).run ops = s ∧
      s.tokens.known = [("A", ["y"]), ("B", ["x", "z"])] ∧ s.tokens.known.keys = s.template.keys := by
  let ops : List Operation :=
    [.load ["### A", "    <#x#> [y] [1]", "### B", "    [x] [+z] [x]"] "template",
      .setDelimiters (some "[") (some "]") (some "!"), .render (some "A") none, .resetOutput true]
  have hops : (ofSettings {}).aborts ops = [] := by decide +kernel
  have hknown : ((ofSettings {}).run ops).tokens.known = [("A", ["y"]), ("B", ["x", "z"])] := by
    decide +kernel
  exact ⟨ops, _, hops, rfl, hknown, (known_run hops rfl).1⟩

end Session

end Stencil
