/-
# Sessions that are reset

A reset goes over the session piece by piece, and so does a set of delimiters that is refused.  What is
left is what the settings began with, in any session that operations lead to: of all that has been
loaded, rendered, supplied and set up nothing shows but the log and the last fault.

No operation looks at these two, so that a reset session is a new one to whoever goes on with it.
What the host sees of an operation (`Observation`) is the same in both, however many operations
follow.

* `observations_behind`: what the host sees behind an earlier log;
* `Reachable.resetAll_agrees`: what a reset leaves;
* `Reachable.reset_as_new`: what can be done with it.
-/
import Stencil.Proofs.Session.Afresh
import Stencil.Proofs.Session.Behind

namespace Stencil

namespace Session

/-! ## 1. Observations -/

/-- What the host sees of an operation: what it gives back, the output behind it, and the records
that it has added to the log. -/
structure Observation where
  reply : Reply
  output : List String
  added : Log

/-- What the host sees of an operation. -/
def observe (s : Session) (op : Operation) : Observation where
  reply := s.reply op
  output := (s.perform op).1.output
  added := (s.perform op).1.log.drop s.log.length

/-- What the host sees of operations, one after the other. -/
def observations (s : Session) : List Operation → List Observation
  | [] => []
  | op :: ops => s.observe op :: (s.perform op).1.observations ops

theorem observe_behind (l : Log) (f : Option LoadFault) (s : Session) (op : Operation) :
    (s.behind l f).observe op = s.observe op := by
  obtain ⟨hreply, f', h⟩ := perform_behind l f s op
  -- new records are counted from the log of before, however long it is
  have hadded : (l ++ (s.perform op).1.log).drop (l ++ s.log).length
      = (s.perform op).1.log.drop s.log.length := by
    rw [List.length_append, List.drop_length_add_append]
  unfold observe
  rw [hreply, h]
  exact congrArg (Observation.mk (s.reply op) (s.perform op).1.output) hadded

/-- **The host sees the same behind an earlier log**, and is left with the same session. -/
theorem observations_behind (l : Log) (f : Option LoadFault) (s : Session) (ops : List Operation) :
    (s.behind l f).observations ops = s.observations ops ∧
      ∃ f', (s.behind l f).run ops = (s.run ops).behind l f' := by
  induction ops generalizing s f with
  | nil => exact ⟨rfl, f, rfl⟩
  | cons op ops ih =>
    obtain ⟨-, f', h⟩ := perform_behind l f s op
    obtain ⟨hobserved, f'', hrun⟩ := ih f' (s.perform op).1
    rw [← h] at hobserved hrun
    refine ⟨?_, f'', hrun⟩
    rw [observations, observations, observe_behind, hobserved]

/-! ## 2. Resets -/

/-- Two sessions agree in everything but the log and the last fault. -/
def AgreeButLogAndFault (s t : Session) : Prop :=
  s = { t with log := s.log, lastFault := s.lastFault }

theorem agree_behind (l : Log) (f : Option LoadFault) (s : Session) :
    AgreeButLogAndFault (s.behind l f) s := rfl

/-- A reset leaves the session that the settings begin. -/
theorem Reachable.resetAll_agrees {settings : Settings} {s : Session} (hs : Reachable settings s)
    (log : Log) : AgreeButLogAndFault { s with log }.resetAll (ofSettings settings) := by
  have hclear : { s with log }.clear
      = { fresh settings s.delimiters with log, path := s.path, lastFault := s.lastFault } :=
    congrArg (fun t : Session => { t with log }) hs.clear_eq
  unfold AgreeButLogAndFault resetAll
  rw [hclear]
  dsimp only
  rw [hs.home]
  rfl

/-- **A session that is reset is as new**, whether that was asked for or a set of delimiters was
refused, in every reachable session.  It is the session that the settings begin but for the log and the
last fault; and whatever operations follow, they give the same answers, the same output and the same
new records, and lead to the same sessions. -/
theorem Reachable.reset_as_new {settings : Settings} {s t : Session} (hs : Reachable settings s)
    (ht : t = s.resetAll ∨ ∃ start stop escape, s.setDelimiters start stop escape = (t, false)) :
    AgreeButLogAndFault t (ofSettings settings) ∧
      ∀ ops, t.observations ops = (ofSettings settings).observations ops ∧
        AgreeButLogAndFault (t.run ops) ((ofSettings settings).run ops) := by
  -- delimiters that are refused come to the same reset, behind a warning
  have hreset : ∃ log, t = { s with log }.resetAll := by
    rcases ht with rfl | ⟨start, stop, escape, h⟩
    · exact ⟨s.log, rfl⟩
    · have hchange := s.delimiterChange start stop escape
      rw [h] at hchange
      cases hchange with
      | refused => exact ⟨_, rfl⟩
  obtain ⟨log, rfl⟩ := hreset
  have hagree := hs.resetAll_agrees log
  refine ⟨hagree, fun ops => ?_⟩
  generalize { s with log }.resetAll = t at hagree ⊢
  -- the reset session is the new one behind its log, and no operation sees what is before
  have hbehind : t = (ofSettings settings).behind t.log t.lastFault := by
    rw [hagree]
    simp only [behind, ofSettings, List.append_nil]
  obtain ⟨hobserved, f, hrun⟩ := observations_behind t.log t.lastFault (ofSettings settings) ops
  rw [← hbehind] at hobserved hrun
  exact ⟨hobserved, hrun ▸ agree_behind _ _ _⟩

/-- Delimiters that are refused behind others that were accepted, a header with a tab size and values;
then a template with a default name, whose tokens are those of the settings. -/
theorem Reachable.reset_as_new_refused :
    ∃ settings s t, Reachable settings s ∧ s.delimiters = ⟨"(", ")", "!"⟩ ∧ s.output = ["   v"] ∧
      s.setDelimiters (some "(") (some " ") (some "!") = (t, false) ∧
      AgreeButLogAndFault t (ofSettings settings) ∧
      ∃ ops, ((ofSettings settings).run ops).output = ["  w", "  (x)"] ∧
        t.observations ops = (ofSettings settings).observations ops ∧
        AgreeButLogAndFault (t.run ops) ((ofSettings settings).run ops) := by
  let settings : Settings := { tabSize := 2, delimiters := ⟨"[", "]", "!"⟩ }
  let before : List Operation :=
    [.setDelimiters (some "(") (some ")") (some "!"), .load ["### A TAB=3", "@+1 (x)"] "template",
      .render (some "A") (some [(.name "x", .string "v")])]
  let s := (ofSettings settings).run before
  let t := (s.setDelimiters (some "(") (some " ") (some "!")).1
  let later : List Operation :=
    [.load ["@+1 [x]", "    (x)"] "template",
      .render (some "DefaultSegment1") (some [(.name "x", .string "w")])]
  have hdelimiters : s.delimiters = ⟨"(", ")", "!"⟩ := by decide +kernel
  have houtput : s.output = ["   v"] := by decide +kernel
  have hrefused : s.setDelimiters (some "(") (some " ") (some "!") = (t, false) :=
    Prod.ext rfl (by decide +kernel)
  have hlater : ((ofSettings settings).run later).output = ["  w", "  (x)"] := by decide +kernel
  obtain ⟨hagree, hops⟩ :=
    Reachable.reset_as_new (s := s) ⟨before, rfl⟩ (.inr ⟨_, _, _, hrefused⟩)
  exact ⟨settings, s, t, ⟨before, rfl⟩, hdelimiters, houtput, hrefused, hagree, later, hlater,
    hops later⟩

end Session

end Stencil
