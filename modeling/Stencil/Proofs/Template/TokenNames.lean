/-
# Token names of a template

While a template is read, the names that its text can take values for are recorded line by line.  At
any line, what has been recorded is what belongs to the segments that there would be if the open one
were closed now: a segment without text has no record, and it is dropped as well.  So no record is
left behind by a segment that is dropped.

Recording the names of all segments anew, with whatever delimiters, comes to the same as reading
them with these.

* `Segment.mem_tokenNames`, `Segment.nodup_tokenNames`: the names of a segment;
* `Draft.known_read`: what is recorded while a template is read;
* `Tokens.known_rescan`: what is recorded anew.
-/
import Stencil.Proofs.Template.Untouched

namespace Stencil

/-! ## 1. Names of a segment -/

/-- The names in a text are those of its tokens, as far as they are valid. -/
theorem Tokens.mem_namesIn {d : Delimiters} {text name : String} :
    name ∈ Tokens.namesIn d text ↔
      ∃ body, .token body ∈ scan d text.toList ∧ Fragment.nameOf body = name ∧
        isName name = true := by
  rw [Tokens.mem_namesIn_iff]
  constructor
  · rintro ⟨f, hf, hname⟩
    cases f with
    | token body =>
      simp only [Fragment.tokenName?, Option.ite_none_right_eq_some, Option.some.injEq] at hname
      obtain ⟨hvalid, rfl⟩ := hname
      exact ⟨body, hf, rfl, hvalid⟩
    | literal text => simp [Fragment.tokenName?] at hname
    | unterminated text => simp [Fragment.tokenName?] at hname
  · rintro ⟨body, hf, rfl, hvalid⟩
    exact ⟨_, hf, by simp [Fragment.tokenName?, hvalid]⟩

theorem Tokens.nodup_insertName {names : List String} (h : names.Nodup) (name : String) :
    (Tokens.insertName names name).Nodup := by
  unfold insertName
  split
  · exact h
  · rename_i hfree
    exact List.nodup_append.mpr ⟨h, by simp, fun a ha b hb e =>
      hfree (List.mem_singleton.mp hb ▸ e ▸ ha)⟩

theorem Tokens.nodup_foldl_insertName {names : List String} (h : names.Nodup)
    (new : List String) : (new.foldl Tokens.insertName names).Nodup := by
  induction new generalizing names with
  | nil => exact h
  | cons name new ih => exact ih (nodup_insertName h name)

/-- The names that the text lines of a segment can take values for, each once. -/
def Segment.tokenNames (d : Delimiters) (seg : Segment) : List String :=
  (seg.items.flatMap fun item => Tokens.namesIn d item.text).foldl Tokens.insertName []

theorem Segment.mem_tokenNames {d : Delimiters} {seg : Segment} {name : String} :
    name ∈ seg.tokenNames d ↔ ∃ item ∈ seg.items, name ∈ Tokens.namesIn d item.text := by
  rw [tokenNames, Tokens.mem_foldl_insertName, List.mem_flatMap]
  simp

theorem Segment.nodup_tokenNames (d : Delimiters) (seg : Segment) : (seg.tokenNames d).Nodup :=
  Tokens.nodup_foldl_insertName List.nodup_nil _

/-- A text line adds its names to those of its segment. -/
theorem Segment.tokenNames_append (d : Delimiters) (seg : Segment) (item : TextItem) :
    { seg with items := seg.items ++ [item] }.tokenNames d
      = (Tokens.namesIn d item.text).foldl Tokens.insertName (seg.tokenNames d) := by
  simp [tokenNames, List.foldl_append]

namespace Template

def tokenNames (d : Delimiters) (t : Template) : Table String (List String) :=
  t.map fun p => (p.1, p.2.tokenNames d)

theorem tokenNames_append (d : Delimiters) (t u : Template) :
    tokenNames d (t ++ u) = t.tokenNames d ++ u.tokenNames d := List.map_append

theorem keys_tokenNames (d : Delimiters) (t : Template) : (t.tokenNames d).keys = t.keys := by
  simp [tokenNames, Table.keys]

theorem get?_tokenNames (d : Delimiters) (t : Template) (name : String) :
    (t.tokenNames d).get? name = (t.get? name).map (Segment.tokenNames d) := by
  induction t with
  | nil => rfl
  | cons p t ih =>
    simp only [tokenNames, List.map_cons] at ih ⊢
    by_cases h : p.1 = name <;> simp [Table.get?, h, ih]

theorem isName_of_mem_tokenNames {t : Template} {d : Delimiters} {name token : String}
    {names : List String} (hget : (t.tokenNames d).get? name = some names) (h : token ∈ names) :
    isName token = true := by
  rw [get?_tokenNames] at hget
  obtain ⟨seg, -, rfl⟩ := Option.map_eq_some_iff.mp hget
  obtain ⟨item, -, hname⟩ := Segment.mem_tokenNames.mp h
  exact (Tokens.mem_namesIn.mp hname).choose_spec.2.2

/-- What has been rendered makes no difference to the names. -/
theorem tokenNames_startOver (d : Delimiters) (t : Template) :
    t.startOver.tokenNames d = t.tokenNames d := by
  simp only [tokenNames, startOver, List.map_map]
  rfl

end Template

/-! ## 2. Recording -/

namespace Tokens

variable {t : Tokens} {u : Table String (List String)} {segment : String}

/-- The first text of a segment begins its record. -/
theorem extract_fresh (h : t.known = u) (hfree : segment ∉ u.keys) (d : Delimiters)
    (text : String) :
    (t.extract d segment text).known = u ++ [(segment, (namesIn d text).foldl insertName [])] := by
  have hnone : u.get? segment = none := Table.get?_eq_none_iff.mpr hfree
  rw [extract, knownOf, h, hnone]
  exact Table.put_of_not_mem _ hfree

/-- Further text adds to the record of the last segment. -/
theorem extract_last {names : List String} (h : t.known = u ++ [(segment, names)])
    (hfree : segment ∉ u.keys) (d : Delimiters) (text : String) :
    (t.extract d segment text).known
      = u ++ [(segment, (namesIn d text).foldl insertName names)] := by
  rw [extract, knownOf, h, Table.get?_last names hfree]
  exact Table.put_last _ _ hfree

/-- So do several texts. -/
theorem foldl_extract_last {names : List String} (h : t.known = u ++ [(segment, names)])
    (hfree : segment ∉ u.keys) (d : Delimiters) (texts : List String) :
    (texts.foldl (fun t text => t.extract d segment text) t).known
      = u ++ [(segment, (texts.flatMap (namesIn d)).foldl insertName names)] := by
  induction texts generalizing t names with
  | nil => exact h
  | cons text texts ih =>
    rw [List.foldl_cons, ih (extract_last h hfree d text), List.flatMap_cons, List.foldl_append]

/-- Segments recorded one after the other. -/
theorem foldl_rescan (d : Delimiters) (before rest : Template) (h : t.known = before.tokenNames d)
    (hnd : Table.keys (before ++ rest) |>.Nodup) :
    ((rest.map fun p => (p.1, p.2.items.map (·.text))).foldl
        (fun (t : Tokens) p => p.2.foldl (fun t text => t.extract d p.1 text)
          { t with known := t.known.put p.1 [] }) t).known
      = Template.tokenNames d (before ++ rest) := by
  induction rest generalizing t before with
  | nil => simpa using h
  | cons p rest ih =>
    have hsnoc : before ++ p :: rest = (before ++ [p]) ++ rest := by simp
    rw [hsnoc] at hnd ⊢
    have hfree : p.1 ∉ before.keys := by
      rw [Table.keys_append] at hnd
      exact (Table.nodup_keys_snoc_iff.mp (List.nodup_append.mp hnd).1).2
    have hfree' : p.1 ∉ (before.tokenNames d).keys := by rwa [Template.keys_tokenNames]
    -- a record is begun for the segment, behind those of the segments before it
    have hput : t.known.put p.1 [] = before.tokenNames d ++ [(p.1, [])] := by
      rw [h]
      exact Table.put_of_not_mem _ hfree'
    rw [List.map_cons, List.foldl_cons]
    -- the texts of the segment fill its record, and with it the segments so far are one more
    refine ih (before ++ [p]) ?_ hnd
    rw [foldl_extract_last hput hfree', Template.tokenNames_append]
    simp [Template.tokenNames, Segment.tokenNames, List.flatMap_map]

/-- **What is recorded anew belongs to the segments**, whatever was recorded before. -/
theorem known_rescan (t : Tokens) (d : Delimiters) {template : Template}
    (hnd : template.keys.Nodup) :
    (t.rescan d (template.map fun p => (p.1, p.2.items.map (·.text)))).known
      = template.tokenNames d :=
  foldl_rescan (t := { t with known := [] }) d [] template rfl hnd

/-- The record after a line, which is text of the given segment or none. -/
def note (t : Tokens) (d : Delimiters) (segment : String) : Option TextItem → Tokens
  | none => t
  | some item => t.extract d segment item.text

end Tokens

/-! ## 3. Recording while reading -/

/-- A step records what belongs to the segments after it. -/
theorem Reading.Step.known {stem s : String} {r r' : Reading} (hstep : Reading.Step stem s r r')
    (hnd : r.segments.keys.Nodup) {d : Delimiters} {t : Tokens}
    (h : t.known = r.settled.tokenNames d) :
    (t.note d r'.name (Line.ofString s).item?).known = r'.settled.tokenNames d := by
  cases hstep with
  | pass hs => rcases hs with hs | hs <;> simpa [hs, Line.item?, Tokens.note] using h
  | @join item closed name seg hs =>
    have hfree : name ∉ (closed.tokenNames d).keys := by
      rw [Template.keys_tokenNames]
      exact (Table.nodup_keys_snoc_iff.mp hnd).2
    have hjoined : { seg with items := seg.items ++ [item] }.items ≠ [] := by simp
    rw [Reading.settled_of_ne_nil hjoined, Template.tokenNames_append]
    simp only [hs, Line.item?, Tokens.note, Reading.name, Template.tokenNames, List.map_cons,
      List.map_nil, Segment.tokenNames_append]
    -- the first text of a segment begins its record, since without text it would have been dropped
    by_cases hi : seg.items = []
    · rw [Reading.settled_of_nil hi] at h
      have hnone : seg.tokenNames d = [] := by simp [Segment.tokenNames, hi]
      rw [hnone]
      exact Tokens.extract_fresh h hfree d item.text
    · rw [Reading.settled_of_ne_nil hi, Template.tokenNames_append] at h
      exact Tokens.extract_last h hfree d item.text
  | @first item closed name hs _ hfree =>
    rw [Reading.settled_of_ne_nil (by simp), Template.tokenNames_append]
    rw [← Template.keys_tokenNames d] at hfree
    have hclosed : t.known = closed.tokenNames d := h
    simp only [hs, Line.item?, Tokens.note, Reading.name, Option.map_some, Option.getD_some]
    rw [Tokens.extract_fresh hclosed hfree]
    simp [Template.tokenNames, Segment.tokenNames]
  | header hs =>
    rw [Reading.settled_of_nil rfl]
    simpa [hs, Line.item?, Tokens.note] using h

namespace Draft

/-- The record of tokens is written by text lines alone. -/
theorem untouched_tokens : Untouched Draft.tokens :=
  ⟨fun _ _ => rfl, fun _ _ => rfl, fun _ _ => rfl, fun _ _ => rfl⟩

/-- A line records the names of its text, under the name of the segment that is open after it. -/
theorem readLine_tokens {d d' : Draft} {delimiters : Delimiters} {s : String}
    (h : d.readLine delimiters s = (d', none)) :
    d'.tokens = d.tokens.note delimiters d'.position.segment (Line.ofString s).item? := by
  cases hs : Line.ofString s with
  -- a header records nothing
  | header =>
    rw [readLine_header hs] at h
    obtain rfl := congrArg Prod.fst h
    exact (untouched_tokens.addHeader _ s).trans (untouched_tokens.closeSegment _)
  | text item =>
    rw [readLine_text hs, addText] at h
    split at h
    · obtain rfl := (Prod.mk.inj h).1
      rfl
    · obtain ⟨name, namer, -, -, -, hgo⟩ := withNextName_none h
      obtain rfl := (Prod.mk.inj hgo).1
      rfl
  | comment =>
    rw [readLine_pass (.inl hs)] at h
    obtain rfl := (Prod.mk.inj h).1
    rfl
  | short =>
    rw [readLine_pass (.inr hs)] at h
    obtain rfl := (Prod.mk.inj h).1
    rfl
  | faulty fault =>
    have hstop := readLine_faulty hs d delimiters
    rw [h] at hstop
    exact absurd hstop (by simp)

/-- At every line, what is recorded belongs to the segments that would stay. -/
theorem readLines_known {d d' : Draft} {r : Reading} {delimiters : Delimiters}
    {lines : List String} (hd : d.Shows r) (hknown : d.tokens.known = r.settled.tokenNames delimiters)
    (h : d.readLines delimiters lines = (d', none)) :
    ∃ r', d'.Shows r' ∧ d'.tokens.known = r'.settled.tokenNames delimiters := by
  induction lines generalizing d r with
  | nil =>
    obtain rfl := (Prod.mk.inj h).1
    exact ⟨r, hd, hknown⟩
  | cons s lines ih =>
    obtain ⟨d₁, hs, hl⟩ := readLines_cons h
    obtain ⟨-, r₁, hd₁, hstep⟩ := readLine_step hd hs
    refine ih hd₁ ?_ hl
    rw [readLine_tokens hs, hd₁.position]
    exact hstep.known hd.nodup hknown

/-- **While a template is read, what belongs to its segments is recorded**, and nothing else. -/
theorem known_read {d d' : Draft} {delimiters : Delimiters} {lines : List String}
    (hfresh : d.tokens.known = []) (h : d.read delimiters lines = (d', none)) :
    d'.tokens.known = d'.segments.tokenNames delimiters := by
  unfold read at h
  split at h
  · rename_i d₁ hl
    obtain ⟨r, hd₁, hknown⟩ := readLines_known (shows_start d) hfresh hl
    obtain rfl := (Prod.mk.inj h).1
    have hsettled := closeSegment_segments hd₁
    -- closing the last segment records nothing
    rw [← hsettled, ← untouched_tokens.closeSegment] at hknown
    exact hknown
  · rename_i hstop
    exact absurd h (hstop d')

end Draft

end Stencil
