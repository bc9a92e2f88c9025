/-
# Bindings of sessions

Values are bound where they are supplied and nowhere else.  Loading drops all bindings, new delimiters
leave them, and rendering binds the values that come with the request.  So the table of bindings is
always one that was filled by supplying, with distinct keys.

The names on record, which decide what is accepted, go with the template in every session that has one.
A load that breaks off leaves names behind, but no template.

* `load_bindings`: no bindings outlast a load;
* `Reachable.distinct`: the keys of the bindings;
* `Reachable.recordsNames`: the names on record.
-/
import Stencil.Proofs.Session.Block
import Stencil.Proofs.Session.TokenNames
import Stencil.Proofs.Template.Delimiters
import Stencil.Proofs.Token.Bindings

namespace Stencil

/-! ## 1. Tokens -/

namespace Tokens

theorem bindings_foldl_extract (t : Tokens) (d : Delimiters) (segment : String)
    (texts : List String) :
    (texts.foldl (fun t text => t.extract d segment text) t).bindings = t.bindings := by
  induction texts generalizing t with
  | nil => rfl
  | cons text texts ih => exact ih (t.extract d segment text)

/-- Recording the names anew supplies no values. -/
theorem bindings_rescan (t : Tokens) (d : Delimiters) (segments : Table String (List String)) :
    (t.rescan d segments).bindings = t.bindings := by
  suffices h : ∀ u : Tokens, (segments.foldl (fun t p => p.2.foldl (fun t text =>
      t.extract d p.1 text) { t with known := t.known.put p.1 [] }) u).bindings = u.bindings from
    h { t with known := [] }
  intro u
  induction segments generalizing u with
  | nil => rfl
  | cons p segments ih => exact (ih _).trans (bindings_foldl_extract _ d p.1 p.2)

end Tokens

namespace Session

/-! ## 2. What operations do to the bindings -/

/-- No bindings outlast a load. -/
theorem load_bindings (s : Session) (lines : List String) (name : String) :
    (s.load lines name).1.tokens.bindings = [] := by
  by_cases hempty : isEmptyTemplate lines = true
  · rw [load_of_empty name hempty]
    rfl
  · have hread := (s.loading name).bindings_read s.delimiters lines
    rw [load_of_not_empty name hempty]
    generalize (s.loading name).read s.delimiters lines = result at hread ⊢
    rcases result with ⟨d, _ | (f | o)⟩
    · exact hread
    · rfl
    · exact hread

/-- A segment that can be rendered is there. -/
theorem exists_of_not_refused {s : Session} {name : String} (h : s.refusal? name = none) :
    ∃ seg, s.template.get? name = some seg := by
  cases hget : s.template.get? name with
  | some seg => exact ⟨seg, rfl⟩
  | none =>
    obtain ⟨m, hm⟩ := exists_refusal_of_missing hget
    exact absurd (h.symm.trans hm) (by simp)

/-- A request binds the values that come with it, or nothing. -/
theorem Sound.tokens_render {s : Session} (hs : s.Sound) (segment : Option String)
    (values : Option Values) :
    (s.render segment values).tokens = s.tokens ∨
      (s.render segment values).tokens
        = (s.tokens.load (some (segment.getD "")) values).1 := by
  cases hm : s.refusal? (segment.getD "") with
  | some m =>
    rw [render_of_refusal hm]
    exact .inl rfl
  | none =>
    -- only the values of the request are bound, since the pad is rendered without any
    obtain ⟨seg, hget⟩ := exists_of_not_refused hm
    have hrender : s.render segment values = s.render (some (segment.getD "")) values := rfl
    rw [hrender, hs.render_eq hget, renderOwn_eq]
    dsimp only
    rw [beforeOwn_tokens, enter_tokens]
    split
    · exact .inr rfl
    · exact .inl rfl

/-- Every operation keeps the keys of the bindings distinct. -/
theorem distinct_perform {s : Session} (hs : s.Sound) (h : s.tokens.Distinct) (op : Operation) :
    (s.perform op).1.tokens.Distinct := by
  cases op with
  | load lines name => exact .of_nil (load_bindings s lines name)
  | loadFile files path =>
    rw [perform]
    rcases s.loadFile_session files path with
      ⟨log, hlog⟩ | ⟨log, hlog⟩ | ⟨log, lines, name, path', hlog⟩
    · rw [hlog]
      exact h
    · rw [hlog]
      exact .of_nil rfl
    · rw [hlog]
      exact .of_nil (load_bindings { s with log } lines name)
  | render segment values =>
    rw [perform]
    rcases hs.tokens_render segment values with htokens | htokens
    · exact htokens ▸ h
    · exact htokens ▸ h.load _ _
  -- values are supplied here and with a request, and nowhere else
  | loadValues segment values => exact h.load segment values
  | setTabSize => exact h
  | setDelimiters start stop escape =>
    have hchange := s.delimiterChange start stop escape
    rw [perform]
    generalize s.setDelimiters start stop escape = r at hchange ⊢
    cases hchange with
    | @accepted _ d =>
      have hbindings := s.tokens.bindings_rescan d s.texts
      exact ⟨hbindings ▸ h.segments, hbindings ▸ h.names⟩
    | refused => exact .of_nil rfl
  | resetAll => exact .of_nil rfl
  | resetOutput mention => cases mention <;> exact h
  | resetSegment segment =>
    rw [perform, resetSegment]
    dsimp only
    split <;> exact h
  | writeOutput files path reset =>
    have hwriting := s.writing files path reset
    rw [perform]
    generalize s.writeOutput files path reset = r at hwriting ⊢
    rcases r with ⟨s', files', answer⟩
    cases hwriting <;> exact h

/-- **In a reachable session every name is bound once**, in the one table of its segment. -/
theorem Reachable.distinct {settings : Settings} {s : Session} (hs : Reachable settings s) :
    s.tokens.Distinct := by
  -- together with soundness, on which it depends what a request does
  refine (hs.induction (P := fun s => s.Sound ∧ s.tokens.Distinct)
    ⟨.of_nil rfl, .of_nil rfl⟩ fun s op h => ?_).2
  exact ⟨(perform_step s op).sound h.1, distinct_perform h.1 h.2 op⟩

/-! ## 3. The names on record -/

/-- Whether an operation breaks off or not, the record goes with the template, if there is one. -/
theorem Step.recordsNames_of_isLoaded {s s' : Session} {a : Option Abort} (hstep : s.Step s' a)
    (hs : s.Sound) (h : s.isLoaded = true → s.RecordsNames) (hloaded : s'.isLoaded = true) :
    s'.RecordsNames := by
  cases hstep with
  | keep hkeep =>
    exact (Step.keep hkeep).recordsNames hs (h (hkeep.isLoaded.symm.trans hloaded))
  | drop _ _ _ hnot => exact absurd (hnot.symm.trans hloaded) (by simp)
  | rescan hhome htemplate hkept hknown =>
    exact (Step.rescan hhome htemplate hkept hknown).recordsNames hs (h (hkept.symm.trans hloaded))
  -- the record was empty, so that it is what reading the template leaves
  | @load d _ _ _ hfresh hread htemplate htokens =>
    have hnone : d.tokens.known = [] := by rw [hfresh]
    rw [RecordsNames, htemplate, htokens]
    exact Draft.known_read hnone hread
  | breakOff _ _ hnot => exact absurd (hnot.symm.trans hloaded) (by simp)

/-- **The names on record are those of the template**, in every reachable session that has one. -/
theorem Reachable.recordsNames {settings : Settings} {s : Session} (hs : Reachable settings s)
    (hloaded : s.isLoaded = true) : s.RecordsNames := by
  refine (hs.induction (P := fun s => s.Sound ∧ (s.isLoaded = true → s.RecordsNames))
    ⟨.of_nil rfl, fun h => absurd h (by simp [ofSettings])⟩ fun s op h => ?_).2 hloaded
  have hstep := perform_step s op
  exact ⟨hstep.sound h.1, hstep.recordsNames_of_isLoaded h.1 h.2⟩

end Session

end Stencil
