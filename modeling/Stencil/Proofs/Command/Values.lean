/-
# Values on the command line

The values of the arguments and of the file are bound where a segment is requested, for that segment and
the names of its text.  The pad of a segment is rendered along with it, but it gets no values then: it
has those that were bound when it was requested itself.  So whether the values that are given for a
segment show in its lines is a matter of what has been requested before.

* `get?_valuesFor`: the values that come with a request;
* `Supplies.renderOne`: what is bound, segment by segment of the request;
* `render_fills`: what the lines of a run with exit code 0 hold, those of the pads included;
* `render_pad_unbound`: a pad whose token gets no value, although one is given.
-/
import Stencil.Proofs.Command.Render
import Stencil.Proofs.Session.Unfound

namespace Stencil

namespace Command

/-! ## 1. The values of a request -/

/-- The value that is given for a name of a segment: that of the file, or else that of an argument. -/
def givenFor (args : Table String String) (file : SegmentValues) (segment name : String) :
    Option Json :=
  ((Table.ofPairs ((file.get? segment).getD [])).get? name).or ((args.get? name).map .string)

/-- The arguments for the names of a segment, as values. -/
def argValues (known : List String) (args : Table String String) : Values :=
  (args.filter fun p => p.1 ∈ known).map fun p => (.name p.1, .string p.2)

/-- The arguments give values for the names of the segment. -/
theorem get?_argValues {known : List String} {name : String} (h : name ∈ known)
    (args : Table String String) :
    (argValues known args).get? (.name name) = (args.get? name).map .string := by
  -- over the arguments; one for another name is passed over, be it of the segment or not
  induction args with
  | nil => rfl
  | cons p args ih =>
    rw [argValues] at ih ⊢
    by_cases hp : p.1 = name
    · simp [hp, h, Table.get?]
    · by_cases hknown : p.1 ∈ known
      · simpa [List.filter_cons, hknown, Table.get?, hp] using ih
      · simpa [List.filter_cons, hknown, Table.get?, hp] using ih

theorem nodup_argValues (known : List String) {args : Table String String} (h : args.keys.Nodup) :
    (argValues known args).keys.Nodup := by
  have hkeys : (argValues known args).keys
      = (Table.keys (args.filter fun p => p.1 ∈ known)).map ValueKey.name := by
    simp only [argValues, Table.keys, List.map_map]
    rfl
  have hsub : (Table.keys (args.filter fun p => p.1 ∈ known)).Sublist args.keys :=
    List.filter_sublist.map Prod.fst
  rw [hkeys]
  exact List.Nodup.map (fun _ _ => ValueKey.name.inj) (hsub.nodup h)

/-- **The values that come with a request** are those that are given for the names of the segment.
Without any, none come with it. -/
theorem get?_valuesFor {args : Table String String} (hargs : args.keys.Nodup)
    (known : List String) (file : SegmentValues) (segment : String) :
    ∃ values : Values, values.keys.Nodup ∧
      (∀ name ∈ known, values.get? (.name name) = givenFor args file segment name) ∧
      (valuesFor known args file segment = some values ∨
        values = [] ∧ valuesFor known args file segment = none) := by
  let fromFile : Values := ((file.get? segment).getD []).map fun p => (ValueKey.name p.1, p.2)
  refine ⟨(argValues known args).update fromFile,
    Table.nodup_keys_update (nodup_argValues known hargs) fromFile, fun name hname => ?_, ?_⟩
  · have hfile := Table.get?_ofPairs_map (f := ValueKey.name) (fun _ _ => ValueKey.name.inj) id
      ((file.get? segment).getD []) name
    -- the values of the file go over those of the arguments
    rw [Table.get?_update, get?_argValues hname]
    exact congrArg (Option.or · _) (hfile.trans (congrFun Option.map_id _))
  · unfold valuesFor
    dsimp only
    split
    · rename_i hnil
      exact .inr ⟨hnil, rfl⟩
    · exact .inl rfl

/-- Of several arguments for one name the last counts. -/
theorem nodup_parseArgs {items : List String} {args : Table String String}
    (h : parseArgs items = .ok args) : args.keys.Nodup := by
  obtain ⟨pairs, -, rfl⟩ := map_eq_ok_iff.mp h
  exact Table.nodup_keys_update (t := []) (by simp) pairs

/-! ## 2. What is bound -/

namespace RenderRequest

variable {args : Table String String} {file : SegmentValues} {before : List String} {s : Session}

/-- Of the names of the template, those of the segments that have been requested are bound to the
values that are given for them, and no others are bound. -/
def Supplies (args : Table String String) (file : SegmentValues) (before : List String)
    (s : Session) : Prop :=
  ∀ segment names, (s.template.tokenNames s.delimiters).get? segment = some names →
    ∀ name ∈ names, s.tokens.binding? (some segment) name =
      if segment ∈ before then (givenFor args file segment name).map boundValue else none

theorem Supplies.start (h : s.tokens.bindings = []) : Supplies args file [] s := by
  intro segment names _ name _
  rw [Tokens.binding?, Tokens.bindingsOf, h]
  rfl

/-- The names of a segment that is requested are bound to the values that are given for them, or stay
as they are. -/
theorem binding?_renderOne (hargs : args.keys.Nodup) (hs : s.Sound) (hrecord : s.RecordsNames)
    {segment : String} {seg : Segment} (hget : s.template.get? segment = some seg) {name : String}
    (hname : name ∈ seg.tokenNames s.delimiters) :
    (renderOne args file s segment).tokens.binding? (some segment) name
      = ((givenFor args file segment name).map boundValue).or
          (s.tokens.binding? (some segment) name) := by
  have hnames : (s.template.tokenNames s.delimiters).get? segment
      = some (seg.tokenNames s.delimiters) := by
    rw [Template.get?_tokenNames, hget]
    rfl
  -- the names of the template are what the tokens know of its segments
  have hknown : s.tokens.known.get? segment = some (seg.tokenNames s.delimiters) :=
    hrecord ▸ hnames
  have haccept := Tokens.accept_of_mem hknown hname (Template.isName_of_mem_tokenNames hnames hname)
  have hknownOf : s.tokens.knownOf segment = seg.tokenNames s.delimiters := by
    rw [Tokens.knownOf, hknown]
    rfl
  obtain ⟨values, hnd, hvalues, hcome⟩ :=
    get?_valuesFor hargs (s.tokens.knownOf segment) file segment
  obtain ⟨_, _, happends⟩ :=
    hs.appends_render hget (valuesFor (s.tokens.knownOf segment) args file segment)
  rw [← hvalues name (hknownOf ▸ hname), renderOne, happends.tokens]
  -- without values nothing is loaded, and there is none for the name
  rcases hcome with hcome | ⟨rfl, hcome⟩
  · rw [hcome]
    exact Tokens.binding?_load_self hnd haccept
  · rw [hcome]
    rfl

/-- Other segments are bound as they were. -/
theorem binding?_renderOne_of_ne (hs : s.Sound) {segment other : String} (h : segment ≠ other)
    (name : String) :
    (renderOne args file s segment).tokens.binding? (some other) name
      = s.tokens.binding? (some other) name := by
  -- rendering loads the values of its own segment, or none
  rcases hs.tokens_render (some segment) (valuesFor (s.tokens.knownOf segment) args file segment)
    with htokens | htokens
  · rw [renderOne, htokens]
  · rw [renderOne, htokens]
    exact Tokens.binding?_load_of_ne s.tokens _ name fun e => h (Option.some.inj e)

/-- **What is bound once one more segment has been requested.** -/
theorem Supplies.renderOne (h : Supplies args file before s) (hargs : args.keys.Nodup)
    (hs : s.Sound) (hrecord : s.RecordsNames) (segment : String) :
    Supplies args file (before ++ [segment]) (renderOne args file s segment) := by
  intro other names hnames name hname
  have hkeeps : s.Keeps (RenderRequest.renderOne args file s segment) := s.keeps_render _ _
  rw [hkeeps.tokenNames] at hnames
  have hbound := h other names hnames name hname
  by_cases hother : segment = other
  · subst hother
    rw [Template.get?_tokenNames] at hnames
    obtain ⟨seg, hget, rfl⟩ := Option.map_eq_some_iff.mp hnames
    have hmem : segment ∈ before ++ [segment] := by simp
    rw [binding?_renderOne hargs hs hrecord hget hname, hbound, if_pos hmem]
    -- requested before or not, the values are the same ones
    split
    · exact Option.or_self
    · exact Option.or_none
  · rw [binding?_renderOne_of_ne hs hother, hbound]
    simp [Ne.symm hother]

/-- What is bound when the segments of a request have been rendered up to one of them. -/
theorem supplies_renderEach {settings : Settings} (hargs : args.keys.Nodup)
    (hs : Session.Reachable settings s) (hloaded : s.isLoaded = true)
    (hnone : s.tokens.bindings = []) (before : List String) :
    Supplies args file before (renderEach args file s before) := by
  -- over the segments from the end, since the one that is rendered last is looked at
  induction before using List.reverseRecOn with
  | nil => exact .start hnone
  | append_singleton before segment ih =>
    have hreached := reachable_renderEach hs args file before
    have hstill := (keeps_renderEach args file s before).isLoaded.trans hloaded
    rw [renderEach_snoc]
    exact ih.renderOne hargs hreached.sound (hreached.recordsNames hstill) segment

/-! ## 3. What the lines hold -/

/-- The values that show in the lines of a pad: those that are given, if it has been requested itself,
and otherwise none. -/
def padGiven (args : Table String String) (file : SegmentValues) (before : List String)
    (pad : String) : String → Option Json :=
  if pad ∈ before then givenFor args file pad else fun _ => none

/-- The names of a segment without a given value, in the order of its text. -/
def missingOf (d : Delimiters) (given : String → Option Json) (name : String) (seg : Segment) :
    List (String × String) :=
  seg.items.flatMap fun item => (missingNames d given item.text).map (name, ·)

/-- What a request for a segment adds to the output and to the names that were not found, when others
have been requested before: the lines of the segment, with the given values in place, and before them
those of the pad if it is due, with the given values in place if the pad has been requested itself. -/
structure Fills (args : Table String String) (file : SegmentValues) (before : List String)
    (s r : Session) (name : String) (seg : Segment) (values : Option Values)
    (padLines lines : List String) : Prop where
  appends : s.Appends r name seg values padLines lines
  own : ∀ item ∈ seg.items, ∀ n : Nat, r.lineAt name n item =
    String.ofList (List.replicate n ' ') ++
      filledText s.delimiters (givenFor args file name) item.text
  pad : ∀ pad, s.duePad? seg = some pad → ∀ item ∈ pad.items, ∀ n : Nat,
    r.lineAt seg.control.padSegment n item = String.ofList (List.replicate n ' ') ++
      filledText s.delimiters (padGiven args file before seg.control.padSegment) item.text
  unfound : r.log.unfound = s.log.unfound ++
    (s.duePad? seg).elim []
      (missingOf s.delimiters (padGiven args file before seg.control.padSegment)
        seg.control.padSegment) ++
    missingOf s.delimiters (givenFor args file name) name seg

section Fills

variable {args : Table String String} {file : SegmentValues} {before : List String} {s r : Session}
  {name : String} {seg : Segment} {given : String → Option Json}

/-- The text of a segment whose names are bound to given values. -/
theorem lineAt_given
    (h : ∀ token ∈ seg.tokenNames r.delimiters,
      r.tokens.binding? (some name) token = (given token).map boundValue)
    {item : TextItem} (hitem : item ∈ seg.items) (n : Nat) :
    r.lineAt name n item
      = String.ofList (List.replicate n ' ') ++ filledText r.delimiters given item.text := by
  rw [Session.lineAt, (substitute_given fun token htoken =>
    h token (Segment.mem_tokenNames.mpr ⟨item, hitem, htoken⟩)).1]

/-- The names that are not found are those without a given value. -/
theorem unfoundIn_given
    (h : ∀ token ∈ seg.tokenNames r.delimiters,
      r.tokens.binding? (some name) token = (given token).map boundValue) :
    r.unfoundIn name seg = missingOf r.delimiters given name seg :=
  List.flatMap_congr fun item hitem => (substitute_given fun token htoken =>
    h token (Segment.mem_tokenNames.mpr ⟨item, hitem, htoken⟩)).2

/-- The names of a segment are bound to the values that are given for them if it has been requested.
-/
theorem Supplies.binding?_of_segment (h : Supplies args file before r) (hkeeps : s.Keeps r)
    (hget : s.template.get? name = some seg) {token : String}
    (htoken : token ∈ seg.tokenNames r.delimiters) :
    r.tokens.binding? (some name) token = (padGiven args file before name token).map boundValue := by
  have hnames : (r.template.tokenNames r.delimiters).get? name
      = some (seg.tokenNames r.delimiters) := by
    rw [hkeeps.tokenNames, Template.get?_tokenNames, hget, hkeeps.delimiters]
    rfl
  rw [h name _ hnames token htoken, padGiven]
  split <;> rfl

/-- **A request fills in the values** that are given for its segment, and those of its pad if the pad
has been requested itself. -/
theorem Supplies.fills {settings : Settings} (h : Supplies args file before s)
    (hargs : args.keys.Nodup) (hs : Session.Reachable settings s) (hloaded : s.isLoaded = true)
    (hget : s.template.get? name = some seg) :
    ∃ padLines lines, Fills args file before s (RenderRequest.renderOne args file s name) name seg
      (valuesFor (s.tokens.knownOf name) args file name) padLines lines := by
  have hafter := h.renderOne hargs hs.sound (hs.recordsNames hloaded) name
  obtain ⟨padLines, lines, happends⟩ :=
    hs.sound.appends_render hget (valuesFor (s.tokens.knownOf name) args file name)
  have hunfound :=
    hs.sound.unfound_render hget (valuesFor (s.tokens.knownOf name) args file name)
  have hkeeps := s.keeps_render (some name) (valuesFor (s.tokens.knownOf name) args file name)
  rw [RenderRequest.renderOne] at hafter ⊢
  generalize s.render (some name) (valuesFor (s.tokens.knownOf name) args file name) = r
    at hafter happends hunfound hkeeps ⊢
  -- the segment itself has now been requested
  have hown : ∀ token ∈ seg.tokenNames r.delimiters, r.tokens.binding? (some name) token
      = (givenFor args file name token).map boundValue := by
    intro token htoken
    rw [hafter.binding?_of_segment hkeeps hget htoken, padGiven, if_pos (by simp)]
  -- the pad is another segment, so that the request for this one does not count for it
  have hpad : ∀ pad, s.duePad? seg = some pad → ∀ token ∈ pad.tokenNames r.delimiters,
      r.tokens.binding? (some seg.control.padSegment) token
        = (padGiven args file before seg.control.padSegment token).map boundValue := by
    intro pad hdue token htoken
    obtain ⟨hdue, hfound⟩ : seg.control.padIsDue = true ∧
        s.template.get? seg.control.padSegment = some pad := by
      simpa [Session.duePad?] using hdue
    obtain ⟨-, -, hne, -⟩ := hs.sound.pad hget (Control.padIsDue_iff.mp hdue).1
    rw [hafter.binding?_of_segment hkeeps hfound htoken]
    simp [padGiven, hne]
  refine ⟨padLines, lines, happends, fun item hitem n => ?_, fun pad hdue item hitem n => ?_, ?_⟩
  · rw [lineAt_given hown hitem, hkeeps.delimiters]
  · rw [lineAt_given (hpad pad hdue) hitem, hkeeps.delimiters]
  · rw [hunfound, unfoundIn_given hown, hkeeps.delimiters]
    cases hdue : s.duePad? seg with
    | none => rfl
    | some pad =>
      simp only [Option.elim_some, unfoundIn_given (hpad pad hdue), hkeeps.delimiters]

end Fills

end RenderRequest

/-- **What the lines of a run with exit code 0 hold.**  Its output is delivered when the segments of
the request have been rendered one after the other.  Each that the template has fills in the values
that are given for it; its pad fills in those that are given for the pad if the pad has been requested
before, and otherwise none.  A segment that the template has not adds nothing. -/
theorem render_fills {r : RenderRequest} {env : Settings.Environment} {files : FileTree}
    (h : (render r env files).ending = .ok 0) :
    ∃ settings level args file s, r.Begins env files settings level args file s ∧
      render r env files
        = r.deliver level files (RenderRequest.renderEach args file s r.segments) ∧
      ∀ before name after, r.segments = before ++ name :: after →
        let t := RenderRequest.renderEach args file s before
        let u := RenderRequest.renderEach args file s (before ++ [name])
        (∀ seg, t.template.get? name = some seg → ∃ padLines lines,
          RenderRequest.Fills args file before t u name seg
            (valuesFor (t.tokens.knownOf name) args file name) padLines lines) ∧
        (t.template.get? name = none → u.output = t.output ∧ u.log.unfound = t.log.unfound) := by
  obtain ⟨settings, level, args, file, s, hbegins, hrender⟩ := ending_zero h
  refine ⟨settings, level, args, file, s, hbegins, hrender, fun before name after _ => ?_⟩
  have hargs := nodup_parseArgs hbegins.arguments
  have hreached := RenderRequest.reachable_renderEach hbegins.reachable args file before
  have hloaded := (RenderRequest.keeps_renderEach args file s before).isLoaded.trans hbegins.isLoaded
  have hsupplies : RenderRequest.Supplies args file before
      (RenderRequest.renderEach args file s before) :=
    RenderRequest.supplies_renderEach hargs hbegins.reachable hbegins.isLoaded hbegins.fresh.2 before
  dsimp only
  rw [RenderRequest.renderEach_snoc]
  refine ⟨fun seg hget => hsupplies.fills hargs hreached hloaded hget, fun hnone => ?_⟩
  have hmissing := Session.unfound_of_missing hnone
    (valuesFor ((RenderRequest.renderEach args file s before).tokens.knownOf name) args file name)
  exact ⟨hmissing.1, hmissing.2.2⟩

/-- A template of a row and its separator, which both have a token. -/
def rowFiles : FileTree :=
  ⟨[(["t.tt"], .file (TextFile.bytesOf ["### Sep", "    <#x#>", "### Row PAD=Sep", "@+1 r<#+y#>"]))]⟩

/-- A separator that is requested itself, before the rows that it separates. -/
theorem render_fills_requested :
    ∃ (r : RenderRequest) (args : Table String String) (s : Session) (seg : Segment)
      (padLines lines : List String),
      (render r [] rowFiles).ending = .ok 0 ∧
      (render r [] rowFiles).stdout = "1\n    rA\n    1\n        rA\n" ∧
      r.segments = ["Sep", "Row"] ++ "Row" :: [] ∧ args = [("x", "1"), ("y", "a")] ∧
      (RenderRequest.renderEach args [] s ["Sep", "Row"]).template.get? "Row" = some seg ∧
      seg.control.padIsDue = true ∧ seg.control.padSegment = "Sep" ∧
      RenderRequest.Fills args [] ["Sep", "Row"] (RenderRequest.renderEach args [] s ["Sep", "Row"])
        (RenderRequest.renderEach args [] s (["Sep", "Row"] ++ ["Row"])) "Row" seg
        (valuesFor ["y"] args [] "Row") padLines lines := by
  let r : RenderRequest :=
    { template := "t.tt", segments := ["Sep", "Row", "Row"], token := ["x=1", "y=a"] }
  let args : Table String String := [("x", "1"), ("y", "a")]
  let s := ((Session.ofSettings {}).loadFile rowFiles "t.tt").1
  have hending : (render r [] rowFiles).ending = .ok 0 :=
    toOption_eq_some_iff.mp (by decide +kernel)
  have hstdout : (render r [] rowFiles).stdout = "1\n    rA\n    1\n        rA\n" := by
    decide +kernel
  have hargs : parseArgs r.token = .ok args := toOption_eq_some_iff.mp (by decide +kernel)
  have hpath : (Path.ofString r.template).text = "t.tt" := by decide
  have hget : (RenderRequest.renderEach args [] s ["Sep", "Row"]).template.get? "Row" = some
      { control := { isFirstTime := false, padSegment := "Sep" },
        items := [⟨1, true, false, "r<#+y#>"⟩] } := by decide +kernel
  have hknown : (RenderRequest.renderEach args [] s ["Sep", "Row"]).tokens.knownOf "Row" = ["y"] := by
    decide +kernel
  obtain ⟨settings, level, args', file, s', hbegins, -, hfills⟩ := render_fills hending
  -- what the run begins with is what the request says
  obtain rfl : {} = settings := Except.ok.inj (Settings.load_empty.symm.trans hbegins.configured)
  obtain rfl : args = args' := Except.ok.inj (hargs.symm.trans hbegins.arguments)
  obtain rfl : [] = file := Except.ok.inj hbegins.values
  obtain ⟨t, u, ht, hu, hs⟩ := hbegins.session
  obtain rfl : Session.ofSettings {} = t := congrArg Prod.fst ht
  obtain rfl : s = u := congrArg Prod.fst (hpath ▸ hu)
  obtain rfl : s = s' := hs.symm
  obtain ⟨padLines, lines, h⟩ := (hfills ["Sep", "Row"] "Row" [] rfl).1 _ hget
  exact ⟨r, args, s, _, padLines, lines, hending, hstdout, rfl, rfl, hget, rfl, rfl, hknown ▸ h⟩

/-- **A value that does not show**: a separator that is not requested itself, with a value given for its
token on the command line.  The run ends with exit code 0; its output has the token as it stands in the
template, and the message is that it was not found. -/
theorem render_pad_unbound :
    let r : RenderRequest :=
      { template := "t.tt", segments := ["Row", "Row"], token := ["x=1", "y=a"] }
    (render r [] rowFiles).ending.toOption = some 0 ∧
      (render r [] rowFiles).stdout = "    rA\n    <#x#>\n        rA\n" ∧
      ((render r [] rowFiles).shown.map fun shown => shown.display.caption)
        = ["<Generating> Sep[1] : The token name \"x\" in segment Sep wasn't found in the token " ++
          "dictionary. It will be output as is."] := by
  decide +kernel

end Command

end Stencil
