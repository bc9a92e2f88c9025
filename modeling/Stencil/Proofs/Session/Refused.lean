/-
# Requests that are refused

A request to render is looked at before anything is bound, rendered or marked, so that one that cannot
be met leaves the session as it is: it moves the position, and adds one warning to the log.

There are four reasons to refuse a request, and in a session that operations lead to only three of them
arise.  A segment without text lines is dropped while its template is read, and no operation takes
lines away from a segment later.

* `Sound.exists_refusal_iff`: which requests are refused;
* `Reachable.refused_unchanged`: what a refused request leaves.
-/
import Stencil.Proofs.Session.Sound

namespace Stencil

namespace Session

/-- Where segments have text lines, these requests are refused and no others. -/
theorem Sound.exists_refusal_iff {s : Session} (hs : s.Sound) {name : String} :
    (∃ m, s.refusal? name = some m) ↔
      Text.isBlank name = true ∨ s.isLoaded = false ∨ name ∉ s.template.keys := by
  rw [← Table.get?_eq_none_iff]
  constructor
  · rintro ⟨m, hm⟩
    cases refusal_of_refusal? hm with
    | blank hblank => exact .inl hblank
    | unloaded _ hloaded => exact .inr (.inl hloaded)
    | unknown _ _ hget => exact .inr (.inr hget)
    | bare hget hitems => exact absurd hitems (hs.items hget)
  · rintro (hblank | hloaded | hget)
    · exact exists_refusal_of_blank hblank
    · exact exists_refusal_of_not_loaded hloaded name
    · exact exists_refusal_of_missing hget

/-- **A refused request changes nothing but the position**, in every reachable session, and whatever
values come with it: the session is what it was, with the position at the request and one warning more
in the log.  Refused are the requests with a blank name, or without a template, or for a segment that
the template does not have, and no request for the reason that a segment has no text lines. -/
theorem Reachable.refused_unchanged {settings : Settings} {s : Session} (hs : Reachable settings s) :
    (∀ (segment : Option String) (values : Option Values) (m : Message),
      s.refusal? (segment.getD "") = some m →
        s.render segment values = { s with
          position := ⟨segment.getD "", 0⟩
          log := s.log ++ [.entry ⟨.generating, .warning, ⟨segment.getD "", 0⟩, m⟩] }) ∧
    (∀ name, (∃ m, s.refusal? name = some m) ↔
      Text.isBlank name = true ∨ s.isLoaded = false ∨ name ∉ s.template.keys) ∧
    ∀ name other, s.refusal? name ≠ some (.segmentWithoutLines other) := by
  refine ⟨fun segment values m h => render_of_refusal h values, fun name =>
    hs.sound.exists_refusal_iff, fun name other h => ?_⟩
  cases refusal_of_refusal? h with
  | bare hget hitems => exact hs.sound.items hget hitems

/-- A request for a segment that is not there and one without a name, behind a render. -/
theorem Reachable.refused_unchanged_rendered :
    ∃ s, Reachable {} s ∧ s.output = ["a"] ∧
      s.refusal? "B" = some (.unknownSegment "B") ∧
      s.render (some "B") (some [(.name "x", .string "v")]) = { s with
        position := ⟨"B", 0⟩
        log := s.log ++ [.entry ⟨.generating, .warning, ⟨"B", 0⟩, .unknownSegment "B"⟩] } ∧
      s.refusal? "" = some .blankSegmentName ∧
      s.render none (some []) = { s with
        position := ⟨"", 0⟩
        log := s.log ++ [.entry ⟨.generating, .warning, ⟨"", 0⟩, .blankSegmentName⟩] } := by
  let ops : List Operation := [.load ["### A PAD=P", "    a"] "template", .render (some "A") none]
  let s := (ofSettings {}).run ops
  have houtput : s.output = ["a"] := by decide +kernel
  have hmissing : s.refusal? "B" = some (.unknownSegment "B") := by decide +kernel
  have hblank : s.refusal? "" = some .blankSegmentName := by decide +kernel
  obtain ⟨hrender, -, -⟩ := Reachable.refused_unchanged (s := s) ⟨ops, rfl⟩
  exact ⟨s, ⟨ops, rfl⟩, houtput, hmissing, hrender (some "B") _ _ hmissing, hblank,
    hrender none _ _ hblank⟩

end Session

end Stencil
