/-
# Values that are supplied ahead

Values for the tokens of a segment come with a request for it, or they are supplied at some earlier
time.  Of a session without them, one that has been supplied with values differs in its record of
tokens only (`Tokens.AgreeBut`): in the bindings of the one segment.

* **They stay with their segment.**  The lines of a segment look at its own bindings, and those of its
  pad at the pad's.  So as long as neither that segment is requested nor one that is padded with it,
  the two sessions go on side by side, with the same output and the same entries in the log
  (`renders_separate`).
* **It does not matter when they come.**  Supplied with the request, they are bound between coming to
  the segment and rendering its pad; supplied ahead, they are bound already.  Nothing looks at the
  bindings in between, so what is left in the end is the same, the order in the log apart
  (`render_ahead`).
-/
import Stencil.Proofs.Session.Behind
import Stencil.Proofs.Session.Bindings

namespace Stencil

/-! ## 1. Records of tokens -/

namespace Tokens

/-- The two records have the same names, and the same bindings for every segment but one. -/
structure AgreeBut (segment : Option String) (t t' : Tokens) : Prop where
  known : t'.known = t.known
  bindings : ∀ other, other ≠ segment → t'.bindings.get? other = t.bindings.get? other

theorem merge_congr {t t' : Tokens} (h : t'.known = t.known) (segment : Option String)
    (values : Values) (b : Bindings) : t'.merge segment values b = t.merge segment values b := by
  induction values generalizing b with
  | nil => rfl
  | cons p values ih => simp only [merge, accept_congr h, ih]

theorem agreeBut_load (t : Tokens) (segment : Option String) (values : Option Values) :
    t.AgreeBut segment (t.load segment values).1 where
  known := t.known_load segment values
  bindings _ hother := t.get?_load_of_ne values hother.symm

namespace AgreeBut

variable {t t' : Tokens} {segment other : Option String}

theorem bindingsOf (h : t.AgreeBut segment t') (hother : other ≠ segment) :
    t'.bindingsOf other = t.bindingsOf other := by
  rw [Tokens.bindingsOf, Tokens.bindingsOf, h.bindings other hother]

/-- Values for another segment are taken alike, and the same is said about them. -/
theorem load (h : t.AgreeBut segment t') (hother : other ≠ segment) (values : Option Values) :
    (t'.load other values).2 = (t.load other values).2 ∧
      (t.load other values).1.AgreeBut segment (t'.load other values).1 := by
  rcases values with _ | _ | ⟨p, values⟩
  · exact ⟨rfl, h⟩
  · exact ⟨rfl, h⟩
  · have hmerge := merge_congr h.known other (p :: values) (t.bindingsOf other)
    simp only [Tokens.load, h.bindingsOf hother, hmerge, true_and]
    exact ⟨h.known, fun key hkey => Table.get?_put_congr (h.bindings key hkey) other _⟩

end AgreeBut

end Tokens

/-- The pad of a segment, if it has one. -/
def Template.pad? (t : Template) (name : String) : Option String :=
  ((t.get? name).map (·.control.padSegment)).filter (· ≠ "")

theorem Template.pad?_startOver (t : Template) (name : String) :
    t.startOver.pad? name = t.pad? name := by
  rw [pad?, pad?, get?_startOver, Option.map_map]
  rfl

namespace Session

/-! ## 2. One request -/

open Tokens (AgreeBut)

/-- Of the record of tokens, a segment without its pad looks at its own bindings only. -/
theorem renderOwn_tokens {s : Session} {tokens : Tokens} {name : String}
    (h : tokens.bindingsOf (some name) = s.tokens.bindingsOf (some name)) (seg : Segment) :
    { s with tokens }.renderOwn name seg = { s.renderOwn name seg with tokens } := by
  have hown : { s with tokens }.ownRendition name seg = s.ownRendition name seg := by
    simp only [ownRendition, h]
  rw [renderOwn_eq, renderOwn_eq, hown]
  rfl

/-- Of the record of tokens, a pad looks at its own bindings only. -/
theorem behindPad_tokens_congr {s : Session} {tokens : Tokens} {name : String}
    (h : tokens.bindingsOf (some name) = s.tokens.bindingsOf (some name)) (pad : Segment) :
    { s with tokens }.behindPad name pad = { s.behindPad name pad with tokens } := by
  let saved : Session := { s with column := s.column.save }
  have hown := renderOwn_tokens (s := saved.enter name none) h pad
  exact congrArg (fun r : Session => { r with column := s.column, position := s.position }) hown

variable {s : Session} {segment : Option String} {tokens : Tokens}

theorem loadValues_agreeBut (h : s.tokens.AgreeBut segment tokens) {other : Option String}
    (hother : other ≠ segment) (values : Option Values) :
    ∃ tokens', (s.loadValues other values).tokens.AgreeBut segment tokens' ∧
      { s with tokens }.loadValues other values
        = { s.loadValues other values with tokens := tokens' } := by
  obtain ⟨hsaid, hload⟩ := h.load hother values
  exact ⟨_, hload, congrArg
    (({ s with tokens := (tokens.load other values).1 } : Session).warn .generating) hsaid⟩

theorem enter_agreeBut (h : s.tokens.AgreeBut segment tokens) {name : String}
    (hname : some name ≠ segment) (values : Option Values) :
    ∃ tokens', (s.enter name values).tokens.AgreeBut segment tokens' ∧
      { s with tokens }.enter name values = { s.enter name values with tokens := tokens' } := by
  cases values with
  | none => exact ⟨tokens, h, rfl⟩
  | some values => exact loadValues_agreeBut (s := s.enter name none) h hname (some values)

theorem padIsDue_of_duePad {seg pad : Segment} (h : s.duePad? seg = some pad) :
    seg.control.padIsDue = true := by
  unfold duePad? at h
  split at h
  · assumption
  · exact absurd h (by simp)

theorem beforeOwn_agreeBut (h : s.tokens.AgreeBut segment tokens) {name : String} {seg : Segment}
    (hname : some name ≠ segment)
    (hpad : seg.control.padSegment ≠ "" → some seg.control.padSegment ≠ segment)
    (values : Option Values) :
    ∃ tokens', (s.beforeOwn name seg values).tokens.AgreeBut segment tokens' ∧
      { s with tokens }.beforeOwn name seg values
        = { s.beforeOwn name seg values with tokens := tokens' } := by
  obtain ⟨tokens', hagree, henter⟩ := enter_agreeBut h hname values
  have hdue : { s with tokens }.duePad? seg = s.duePad? seg := rfl
  unfold beforeOwn
  rw [hdue, henter]
  cases hp : s.duePad? seg with
  | none => exact ⟨tokens', hagree, rfl⟩
  | some pad =>
    -- a pad that is due has a name, and that is not the segment
    have hne : seg.control.padSegment ≠ "" :=
      (Control.padIsDue_iff.mp (padIsDue_of_duePad hp)).1
    refine ⟨tokens', ?_, behindPad_tokens_congr (hagree.bindingsOf (hpad hne)) pad⟩
    rwa [behindPad_tokens]

/-- A request for another segment, that is not padded with it, either. -/
theorem Sound.render_agreeBut (hs : s.Sound) (h : s.tokens.AgreeBut segment tokens)
    {request : Option String} (hrequest : request ≠ segment)
    (hpad : ∀ pad ∈ s.template.pad? (request.getD ""), some pad ≠ segment)
    (values : Option Values) :
    ∃ tokens', (s.render request values).tokens.AgreeBut segment tokens' ∧
      { s with tokens }.render request values
        = { s.render request values with tokens := tokens' } := by
  cases hm : s.refusal? (request.getD "") with
  | some m =>
    have hm' : { s with tokens }.refusal? (request.getD "") = some m := hm
    rw [render_of_refusal hm, render_of_refusal hm']
    exact ⟨tokens, h, rfl⟩
  | none =>
    obtain ⟨seg, hget⟩ := exists_of_not_refused hm
    -- a request without a name is refused, so this one has a name
    have hsome : some (request.getD "") = request := by
      cases request with
      | some name => rfl
      | none =>
        have hblank : Text.isBlank "" = true := rfl
        obtain ⟨m, hblank⟩ := s.exists_refusal_of_blank hblank
        exact absurd (hm.symm.trans hblank) (by simp)
    have hown : seg.control.padSegment ≠ "" → some seg.control.padSegment ≠ segment := fun hne =>
      hpad _ (by simp [Template.pad?, hget, hne])
    have hs' : { s with tokens }.Sound := ⟨hs.template, hs.isLoaded⟩
    have hname : some (request.getD "") ≠ segment := hsome ▸ hrequest
    obtain ⟨tokens', hagree, hbefore⟩ := beforeOwn_agreeBut h hname hown values
    have hlines := renderOwn_tokens (s := s.beforeOwn (request.getD "") seg values)
      (hagree.bindingsOf hname) seg
    rw [← hsome, hs.render_eq hget, hs'.render_eq hget, hbefore, hlines]
    refine ⟨tokens', ?_, rfl⟩
    rwa [renderOwn_eq]

/-! ## 3. Any number of requests -/

/-- The requests are neither for the given segment nor for one that is padded with it. -/
def Spares (s : Session) (segment : Option String)
    (requests : List (Option String × Option Values)) : Prop :=
  ∀ r ∈ requests, r.1 ≠ segment ∧ ∀ pad ∈ s.template.pad? (r.1.getD ""), some pad ≠ segment

instance (s : Session) (segment : Option String) (requests : List (Option String × Option Values)) :
    Decidable (s.Spares segment requests) :=
  inferInstanceAs (Decidable (∀ r ∈ requests, _ ∧ ∀ _ ∈ s.template.pad? _, _))

/-- The session after requests for segments, with the values that come with them. -/
def renders (s : Session) (requests : List (Option String × Option Values)) : Session :=
  s.run (requests.map fun r => .render r.1 r.2)

theorem renders_cons (s : Session) (request : Option String × Option Values)
    (requests : List (Option String × Option Values)) :
    s.renders (request :: requests) = (s.render request.1 request.2).renders requests := rfl

theorem renders_behind (l : Log) (f : Option LoadFault) (s : Session)
    (requests : List (Option String × Option Values)) :
    (s.behind l f).renders requests = (s.renders requests).behind l f := by
  induction requests generalizing s with
  | nil => rfl
  | cons r requests ih => rw [renders_cons, render_behind, ih, renders_cons]

theorem Sound.renders_agreeBut (hs : s.Sound) (h : s.tokens.AgreeBut segment tokens)
    {requests : List (Option String × Option Values)} (hspares : s.Spares segment requests) :
    ∃ tokens', (s.renders requests).tokens.AgreeBut segment tokens' ∧
      { s with tokens }.renders requests = { s.renders requests with tokens := tokens' } := by
  induction requests generalizing s tokens with
  | nil => exact ⟨tokens, h, rfl⟩
  | cons r requests ih =>
    obtain ⟨⟨hrequest, hpad⟩, hrest⟩ := List.forall_mem_cons.mp hspares
    obtain ⟨tokens₁, hagree, hrender⟩ := hs.render_agreeBut h hrequest hpad r.2
    have hkeeps := s.keeps_render r.1 r.2
    -- a render leaves the pads of the segments
    have hpads : (s.render r.1 r.2).template.pad? = s.template.pad? := by
      funext name
      rw [← Template.pad?_startOver, hkeeps.template, Template.pad?_startOver]
    have hspares' : (s.render r.1 r.2).Spares segment requests := by
      simpa only [Spares, hpads] using hrest
    rw [renders_cons, renders_cons, hrender]
    exact ih ((Step.keep hkeeps).sound (a := none) hs) hagree hspares'

/-- **Values for one segment do not show in the others.**  Requests that are neither for the segment nor
for one that is padded with it come to the same output and leave the same entries in the log, whether
values have been supplied for the segment before them or not.  Afterwards the bindings of every other
segment are the same, and so is all the rest. -/
theorem Reachable.renders_separate {settings : Settings} {s : Session} (hs : Reachable settings s)
    {segment : Option String} {requests : List (Option String × Option Values)}
    (hspares : s.Spares segment requests) (values : Option Values) :
    let plain := s.renders requests
    let supplied := (s.loadValues segment values).renders requests
    supplied.output = plain.output ∧
      (∃ new, plain.log = s.log ++ new ∧
        supplied.log = (s.loadValues segment values).log ++ new) ∧
      (∀ other, other ≠ segment →
        supplied.tokens.bindingsOf other = plain.tokens.bindingsOf other) ∧
      supplied.tokens.known = plain.tokens.known ∧
      supplied = { plain with log := supplied.log, tokens := supplied.tokens } := by
  -- both sessions stand behind their logs, and go on to the same one
  let bare : Session := { s with log := [] }
  have hbare : bare.Sound := ⟨hs.sound.template, hs.sound.isLoaded⟩
  obtain ⟨tokens, hagree, hrenders⟩ :=
    hbare.renders_agreeBut (s.tokens.agreeBut_load segment values) hspares
  have hplain : s.renders requests = (bare.renders requests).behind s.log s.lastFault := by
    rw [← renders_behind, behind_log]
  have hsupplied : (s.loadValues segment values).renders requests
      = ({ bare.renders requests with tokens } : Session).behind (s.loadValues segment values).log
          s.lastFault := by
    rw [← hrenders, ← renders_behind]
    exact congrArg (renders · requests) (behind_log (s.loadValues segment values)).symm
  rw [hplain, hsupplied]
  exact ⟨rfl, ⟨_, rfl, rfl⟩, fun other hother => hagree.bindingsOf hother, hagree.known, rfl⟩

/-- Values for a segment, one of them under a name that it has not, while others are requested: one that
has a token of the same name, that one again behind its pad, and one that is not there. -/
theorem renders_separate_padded :
    ∃ (s : Session) (requests : List (Option String × Option Values)), Reachable {} s ∧
      s.Spares (some "Note") requests ∧
      let supplied := (s.loadValues (some "Note")
        (some [(.name "x", .string "note"), (.name "y", .string "?")])).renders requests
      supplied.tokens.bindingsOf (some "Note") = [("x", some "note")] ∧
        (s.renders requests).tokens.bindingsOf (some "Note") = [] ∧
        (s.renders requests).output = ["    1", "    <#x#>", "        1"] ∧
        supplied.output = (s.renders requests).output := by
  let ops : List Operation :=
    [.load ["### Bar", "    <#x#>", "### Row PAD=Bar", "@+1 <#x#>", "### Note", "    <#x#>"] "notes"]
  let s := (ofSettings {}).run ops
  let requests : List (Option String × Option Values) :=
    [(some "Row", some [(.name "x", .integer 1)]), (some "Gone", none), (some "Row", none)]
  have hspares : s.Spares (some "Note") requests := by decide +kernel
  obtain ⟨houtput, -⟩ := Reachable.renders_separate (s := s) ⟨ops, rfl⟩ hspares
    (some [(.name "x", .string "note"), (.name "y", .string "?")])
  refine ⟨s, requests, ⟨ops, rfl⟩, hspares, ?_, ?_, ?_, houtput⟩
  · decide +kernel
  · decide +kernel
  · decide +kernel

/-! ## 4. Values ahead of a request -/

theorem behindPad_behind (l : Log) (f : Option LoadFault) (s : Session) (name : String)
    (pad : Segment) : (s.behind l f).behindPad name pad = (s.behindPad name pad).behind l f := by
  let saved : Session := { s with column := s.column.save }
  have hown : ((saved.behind l f).enter name none).renderOwn name pad
      = ((saved.enter name none).renderOwn name pad).behind l f := by
    rw [enter_behind, renderOwn_behind]
  exact congrArg (fun r : Session => { r with column := s.column, position := s.position }) hown

/-- Behind the point at which a render has come to its segment, and the values that come with it have
been supplied, it goes on in the same way whatever is in the log. -/
theorem Sound.exists_goOn {s : Session} (hs : s.Sound) {name : String} {seg : Segment}
    (hget : s.template.get? name = some seg) (values : Values) :
    ∃ go : Session → Session, (∀ l f u, go (behind l f u) = (go u).behind l f) ∧
      s.render (some name) (some values) = go (s.enter name (some values)) ∧
      (s.loadValues (some name) (some values)).render (some name) none
        = go ((s.loadValues (some name) (some values)).enter name none) := by
  let ahead := s.loadValues (some name) (some values)
  have hahead : ahead.Sound := ⟨hs.template, hs.isLoaded⟩
  have hdue : ahead.duePad? seg = s.duePad? seg := rfl
  let finish (u : Session) : Session := { u.renderOwn name seg with isWritten := false }
  have hfinish : ∀ l f u, finish (behind l f u) = (finish u).behind l f := fun l f u =>
    congrArg (fun r : Session => { r with isWritten := false }) (renderOwn_behind l f u name seg)
  rw [hs.render_eq hget, hahead.render_eq hget, beforeOwn, beforeOwn, hdue]
  -- how it goes on is told by the pad, which is due in both sessions or in neither
  cases s.duePad? seg with
  | none => exact ⟨finish, hfinish, rfl, rfl⟩
  | some pad =>
    let padded (u : Session) : Session := u.behindPad seg.control.padSegment pad
    exact ⟨finish ∘ padded, fun l f u =>
      (congrArg finish (behindPad_behind l f u _ pad)).trans (hfinish l f (padded u)), rfl, rfl⟩

/-- **Passing values with a request is supplying them ahead of it.**  The two come to the same session,
the log apart; there only what is said about the values stands elsewhere.  With the request it is said
once the segment has been come to, at its name; ahead of the request, at the position at that time. -/
theorem Reachable.render_ahead {settings : Settings} {s : Session} (hs : Reachable settings s)
    {name : String} {seg : Segment} (hget : s.template.get? name = some seg) (values : Values) :
    let passed := s.render (some name) (some values)
    let ahead := (s.loadValues (some name) (some values)).render (some name) none
    let said := (s.tokens.load (some name) (some values)).2.map (Notice.warning .generating)
    passed = { ahead with log := passed.log } ∧
      ∃ later, passed.log
          = (s.log.report ⟨name, 0⟩ [.info .generating (.rendering name)]).report ⟨name, 0⟩ said
              ++ later ∧
        ahead.log
          = (s.log.report s.position said).report ⟨name, 0⟩ [.info .generating (.rendering name)]
              ++ later := by
  obtain ⟨go, hgo, hpassed, hahead⟩ := hs.sound.exists_goOn hget values
  -- the two have come to the segment in this session, each behind a log of its own
  let entered : Session := { s.enter name (some values) with log := [] }
  have hpassed : s.render (some name) (some values)
      = (go entered).behind (s.enter name (some values)).log s.lastFault := by
    rw [hpassed, ← hgo]
    exact congrArg go (behind_log (s.enter name (some values))).symm
  have hahead : (s.loadValues (some name) (some values)).render (some name) none
      = (go entered).behind ((s.loadValues (some name) (some values)).enter name none).log
          s.lastFault := by
    rw [hahead, ← hgo]
    exact congrArg go (behind_log ((s.loadValues (some name) (some values)).enter name none)).symm
  rw [hpassed, hahead]
  exact ⟨rfl, (go entered).log, rfl, rfl⟩

/-- Values of which one is bound already, one is not a token of the segment and one has no valid name,
with a request behind which the pad goes before the segment. -/
theorem Reachable.render_ahead_padded :
    ∃ s seg, Reachable {} s ∧ s.template.get? "Row" = some seg ∧ seg.control.padIsDue = true ∧
      let values : Values := [(.name "x", .integer 2), (.name "z", .null), (.name "1", .string "")]
      (s.tokens.load (some "Row") (some values)).2
          = [.unknownValueName (some "Row") "z", .invalidValueName (some "Row") "1"] ∧
        (s.render (some "Row") (some values)).output = ["    1", "    --", "        2"] ∧
        s.render (some "Row") (some values)
          = { (s.loadValues (some "Row") (some values)).render (some "Row") none with
              log := (s.render (some "Row") (some values)).log } := by
  let ops : List Operation :=
    [.load ["### Bar", "    --", "### Row PAD=Bar", "@+1 <#x#>"] "table",
      .render (some "Row") (some [(.name "x", .integer 1)])]
  let s := (ofSettings {}).run ops
  have hget : s.template.get? "Row" = some
      { control := { isFirstTime := false, padSegment := "Bar" },
        items := [⟨1, true, false, "<#x#>"⟩] } := by decide +kernel
  obtain ⟨hsame, -⟩ := Reachable.render_ahead (s := s) ⟨ops, rfl⟩ hget
    [(.name "x", .integer 2), (.name "z", .null), (.name "1", .string "")]
  refine ⟨s, _, ⟨ops, rfl⟩, hget, rfl, ?_, ?_, hsame⟩
  · decide +kernel
  · decide +kernel

end Session
end Stencil
