/-
# Templates that are written out

A template is written as its headers, each followed by its text lines.  Reading such lines gives the
template back, and the log keeps nothing worse than the normal course of the work.

Here reading is followed forwards, one line at a time: the header opens its segment with its control
as it is (`readLine_header_written`), and the text lines join it (`readLines_items`).  Every segment
has text, so none is dropped at the next header.

* `readLines_written`: the segments of a template, one after the other;
* `read_written`: the whole template.
-/
import Mathlib.Data.List.Induction
import Stencil.Proofs.Header.Written
import Stencil.Proofs.Template.WellFormed

namespace Stencil

/-! ## 1. What is written -/

def TextItem.written (item : TextItem) : String :=
  String.ofList (Line.written item ++ ' ' :: item.text.toList)

/-- A text item whose indent a control code can hold: one digit, and a sign only if it is relative. -/
def TextItem.Writable (item : TextItem) : Prop :=
  -9 ≤ item.indent ∧ item.indent ≤ 9 ∧ (item.isRelative = false → 0 ≤ item.indent)

instance (item : TextItem) : Decidable item.Writable := inferInstanceAs (Decidable (_ ∧ _ ∧ _))

theorem TextItem.ofString_written {item : TextItem} (h : item.Writable) :
    Line.ofString item.written = .text item := Line.ofString_written h.1 h.2.1 h.2.2

namespace Template

def written (t : Template) : List String :=
  t.flatMap fun p => Header.written p.1 p.2.control :: p.2.items.map TextItem.written

/-- A template that can be written: well-formed, with valid names, and with text in every segment,
all of which can be written. -/
structure Writable (t : Template) : Prop where
  wellFormed : t.WellFormed
  names : ∀ p ∈ t, isName p.1 = true
  nonempty : ∀ p ∈ t, p.2.items ≠ []
  items : ∀ p ∈ t, ∀ item ∈ p.2.items, item.Writable

theorem written_append (t u : Template) : written (t ++ u) = t.written ++ u.written :=
  List.flatMap_append

/-- The beginning of a template that can be written can be written. -/
theorem Writable.of_append {t u : Template} (h : Writable (t ++ u)) : Writable t where
  wellFormed := h.wellFormed.of_append
  names p hp := h.names p (List.mem_append_left _ hp)
  nonempty p hp := h.nonempty p (List.mem_append_left _ hp)
  items p hp := h.items p (List.mem_append_left _ hp)

/-- The pad of the last segment has the valid name of a segment before it. -/
theorem Writable.padNamed {t : Template} {p : String × Segment} (h : Writable (t ++ [p])) :
    p.2.control.PadNamed := by
  intro hne
  obtain ⟨-, -, -, hpad⟩ := wellFormed_snoc_iff.mp h.wellFormed
  obtain ⟨q, hq, hname, -, -⟩ := hpad hne
  exact hname ▸ h.names q (List.mem_append_left _ hq)

end Template

/-! ## 2. Logs that grow -/

namespace Log

/-- The second log continues the first, and every entry that it adds is of the given kind. -/
def GrowsBy (kind : Entry → Prop) (l l' : Log) : Prop :=
  ∃ new : Log, l' = l ++ new ∧ ∀ e ∈ new.entries, kind e

namespace GrowsBy

variable {kind : Entry → Prop} {l l₁ l₂ l₃ : Log}

theorem refl (l : Log) : l.GrowsBy kind l := ⟨[], (List.append_nil l).symm, by simp [entries]⟩

/-- What grows by entries of a kind twice grows by entries of that kind. -/
theorem trans (h₁ : l₁.GrowsBy kind l₂) (h₂ : l₂.GrowsBy kind l₃) : l₁.GrowsBy kind l₃ := by
  obtain ⟨new₁, rfl, hkind₁⟩ := h₁
  obtain ⟨new₂, rfl, hkind₂⟩ := h₂
  refine ⟨new₁ ++ new₂, List.append_assoc _ _ _, fun e he => ?_⟩
  rw [entries_append] at he
  exact (List.mem_append.mp he).elim (hkind₁ e) (hkind₂ e)

theorem report (l : Log) {p : Position} {ns : List Notice} (h : ∀ n ∈ ns, kind (n.stamp p)) :
    l.GrowsBy kind (l.report p ns) := by
  refine ⟨Log.report [] p ns, rfl, fun e he => ?_⟩
  rw [entries_report] at he
  obtain ⟨n, hn, rfl⟩ := List.mem_map.mp he
  exact h n hn

theorem record (l : Log) (d : Detail) : l.GrowsBy kind (l.record d) :=
  ⟨[.detail d], rfl, by simp [entries, Record.entry?]⟩

end GrowsBy

end Log

/-- The second log continues the first, and with no problem. -/
def Log.GrowsQuietly (l l' : Log) : Prop :=
  l.GrowsBy (fun e => e.level.isProblem = false) l'

namespace Draft

/-! ## 3. One line -/

/-- Lines behind lines that were read are read from where these end. -/
theorem readLines_append {d d' : Draft} {delimiters : Delimiters} {xs : List String}
    (h : d.readLines delimiters xs = (d', none)) (ys : List String) :
    d.readLines delimiters (xs ++ ys) = d'.readLines delimiters ys := by
  induction xs generalizing d with
  | nil =>
    obtain rfl := (Prod.mk.inj h).1
    rfl
  | cons s xs ih =>
    obtain ⟨d₁, hs, hxs⟩ := readLines_cons h
    rw [List.cons_append, readLines, hs]
    exact ih hxs

/-- A text line that is written joins the open segment. -/
theorem readLine_item {d : Draft} {closed : Template} {name : String} {seg : Segment}
    {item : TextItem} (hd : d.Shows ⟨closed, some (name, seg)⟩) (hi : item.Writable)
    (delimiters : Delimiters) :
    ∃ d', d.readLine delimiters item.written = (d', none) ∧
      d'.Shows ⟨closed, some (name, { seg with items := seg.items ++ [item] })⟩ ∧
      d.log.GrowsQuietly d'.log := by
  have hs : Line.ofString item.written = .text item := TextItem.ofString_written hi
  have hat := hd.atLine item.written
  refine ⟨(d.atLine item.written).append delimiters item, ?_, hat.append delimiters item, ?_⟩
  · rw [readLine_text hs, addText_of_hasSegment (hat.hasSegment_iff.mpr rfl)]
  · exact .report _ (by simp [hs, Line.notices])

/-- A segment that has text is not dropped when it is closed. -/
theorem closeSegment_of_ne_nil {d : Draft} {r : Reading} (hd : d.Shows r)
    (hr : ∀ p ∈ r.current, p.2.items ≠ []) : d.closeSegment = d := by
  rcases r with ⟨closed, _ | ⟨name, seg⟩⟩
  · have hs : d.position.hasSegment = false := by
      simpa using (not_congr hd.hasSegment_iff).mpr (by simp)
    simp [closeSegment, hs]
  · have hpos : d.position.segment = name := hd.position
    have hseg : d.segments = closed ++ [(name, seg)] := hd.segments
    have hne : seg.items ≠ [] := hr _ rfl
    simp [closeSegment, hpos, hseg, Table.get?_last seg hd.name_not_mem, hne]

/-- A header that is written is read without a notice. -/
theorem readHeader_written {d : Draft} {name : String} {c : Control} (hname : isName name = true)
    (hdecl : c.Declared) (hpn : c.PadNamed) (taken : List String) :
    d.readHeader taken (Header.written name c)
      = (((d.moveTo name).warn []).warn [], .ok (name, c)) := by
  rw [readHeader, Header.ofString_written hname hpn]
  simp only [Header.settle, hname, if_true, Header.readOptions_options hdecl hpn]

/-- Opening a segment whose pad is in place notes no problem. -/
theorem openSegment_quiet {d : Draft} {name : String} {c : Control}
    (h : checkPad d.segments name c = (c, [])) :
    d.log.GrowsQuietly (d.openSegment name c).log := by
  rw [openSegment, h]
  have hwarn : d.log.GrowsQuietly (d.warn []).log := .report _ (by simp)
  refine hwarn.trans (.report _ fun n hn => ?_)
  obtain rfl := List.mem_singleton.mp hn
  rfl

/-- A header that is written opens its segment with its control. -/
theorem readLine_header_written {d : Draft} {r : Reading} {name : String} {c : Control}
    (hd : d.Shows r) (hr : ∀ p ∈ r.current, p.2.items ≠ []) (hname : isName name = true)
    (hfree : name ∉ r.segments.keys) (hdecl : c.Declared) (hpad : c.PadIn r.segments name)
    (hpn : c.PadNamed) (delimiters : Delimiters) :
    ∃ d', d.readLine delimiters (Header.written name c) = (d', none) ∧
      d'.Shows ⟨r.segments, some (name, { control := c })⟩ ∧ d.log.GrowsQuietly d'.log := by
  have hs : Line.ofString (Header.written name c) = .header := Header.isHeader_line hname
  obtain ⟨d₁, hd₁⟩ : ∃ d₁, d₁ = (((d.atLine (Header.written name c)).moveTo name).warn []).warn [] :=
    ⟨_, rfl⟩
  have hseg : d₁.segments = r.segments := by
    rw [hd₁]
    exact hd.segments
  have hpos : d₁.position.segment = name := by
    rw [hd₁]
    rfl
  have hlog : d.log.GrowsQuietly d₁.log := by
    rw [hd₁]
    refine (Log.GrowsBy.report _ ?_).trans
      ((Log.GrowsBy.report _ ?_).trans (.report _ ?_))
    · simp [hs, Line.notices]
    · simp
    · simp
  have hcheck : checkPad d₁.segments name c = (c, []) := hseg ▸ hpad.checkPad hd.nodup
  have hfree₁ : name ∉ d₁.segments.keys := hseg ▸ hfree
  -- no segment is dropped, the name is free and the pad is in place, so that nothing is noted
  refine ⟨d₁.openSegment name c, ?_, ?_, hlog.trans (openSegment_quiet hcheck)⟩
  · rw [readLine_header hs, closeSegment_of_ne_nil (hd.atLine _) hr, addHeader,
      readHeader_written hname hdecl hpn, ← hd₁]
    exact if_neg hfree₁
  · refine shows_of_last ?_ hpos (ne_empty_of_isName hname) hfree hd.nodup
    rw [openSegment_segments c hfree₁, hcheck, hseg]

/-! ## 4. Whole templates -/

/-- Text lines that are written join the open segment one after the other. -/
theorem readLines_items {d : Draft} {closed : Template} {name : String} {seg : Segment}
    {items : List TextItem} (hd : d.Shows ⟨closed, some (name, seg)⟩)
    (hi : ∀ item ∈ items, item.Writable) (delimiters : Delimiters) :
    ∃ d', d.readLines delimiters (items.map TextItem.written) = (d', none) ∧
      d'.Shows ⟨closed, some (name, { seg with items := seg.items ++ items })⟩ ∧
      d.log.GrowsQuietly d'.log := by
  induction items generalizing d seg with
  | nil => exact ⟨d, rfl, by simpa using hd, .refl _⟩
  | cons item items ih =>
    obtain ⟨d₁, h₁, hd₁, hlog₁⟩ := readLine_item hd (hi item List.mem_cons_self) delimiters
    obtain ⟨d₂, h₂, hd₂, hlog₂⟩ := ih hd₁ fun i hm => hi i (List.mem_cons_of_mem _ hm)
    refine ⟨d₂, ?_, by simpa using hd₂, hlog₁.trans hlog₂⟩
    rw [List.map_cons, readLines, h₁]
    exact h₂

/-- The lines of a template leave its segments, the last of them open and with text. -/
theorem readLines_written {t : Template} (h : t.Writable) (d : Draft) (delimiters : Delimiters)
    (hd : d.Shows {}) :
    ∃ d' r, d.readLines delimiters t.written = (d', none) ∧ d'.Shows r ∧ r.segments = t ∧
      (∀ p ∈ r.current, p.2.items ≠ []) ∧ d.log.GrowsQuietly d'.log := by
  -- from the end: a segment is well-formed by what stands before it
  induction t using List.reverseRecOn with
  | nil => exact ⟨d, {}, rfl, hd, rfl, by simp, .refl _⟩
  | append_singleton t p ih =>
    obtain ⟨d₁, r, h₁, hd₁, hr, hfull, hlog₁⟩ := ih h.of_append
    obtain ⟨-, hfree, hdecl, hpad⟩ := Template.wellFormed_snoc_iff.mp h.wellFormed
    have hp : p ∈ t ++ [p] := by simp
    obtain ⟨d₂, h₂, hd₂, hlog₂⟩ := readLine_header_written hd₁ hfull (h.names p hp) (hr ▸ hfree)
      hdecl (hr ▸ hpad) h.padNamed delimiters
    -- the header closes the segment before it, which has text, and the text of its own follows
    obtain ⟨d₃, h₃, hd₃, hlog₃⟩ := readLines_items hd₂ (h.items p hp) delimiters
    refine ⟨d₃, _, ?_, hd₃, ?_, ?_, hlog₁.trans (hlog₂.trans hlog₃)⟩
    · rw [Template.written_append, readLines_append h₁]
      simp only [Template.written, List.flatMap_singleton, readLines, h₂]
      exact h₃
    · change r.segments ++ [(p.1, _)] = t ++ [p]
      rw [hr]
      rfl
    · intro q hq
      obtain rfl := Option.some.inj hq
      simpa using h.nonempty p hp

/-- **A template that is written out reads back as itself**, in whatever state the reading begins,
and the log keeps no problem. -/
theorem read_written {t : Template} (h : t.Writable) (d : Draft) (delimiters : Delimiters) :
    ∃ d', d.read delimiters t.written = (d', none) ∧ d'.segments = t ∧
      d.log.GrowsQuietly d'.log := by
  obtain ⟨d₁, r, h₁, hd₁, hr, hfull, hlog⟩ := readLines_written h _ delimiters (shows_start d)
  rw [read, h₁]
  refine ⟨_, rfl, ?_, ?_⟩
  · simp [closeSegment_of_ne_nil hd₁ hfull, hd₁.segments, hr]
  · rw [closeSegment_of_ne_nil hd₁ hfull]
    exact hlog.trans (.record _ _)

end Draft

/-- A segment with a first-time indent, and one with a pad and a tab size. -/
def Template.padded : Template :=
  [("A", ⟨{ firstTimeIndent := -9 }, [⟨0, true, false, "a"⟩, ⟨-3, true, true, ""⟩]⟩),
    ("B", ⟨{ padSegment := "A", tabSize := some 4 }, [⟨9, false, false, "=x y, z"⟩]⟩)]

/-- It can be written: the pad stands before the segment that it pads. -/
theorem Template.writable_padded : Template.padded.Writable where
  wellFormed := by
    refine (wellFormed_snoc_iff (t := [_])).mpr ⟨?_, by decide, ⟨rfl, by decide, by simp⟩, ?_⟩
    · exact (wellFormed_snoc_iff (t := [])).mpr
        ⟨.nil, by decide, ⟨rfl, by decide, by simp⟩, fun hne => absurd rfl hne⟩
    · exact fun _ => ⟨_, List.mem_singleton_self _, rfl, by decide, rfl⟩
  names := by decide
  nonempty := by decide
  items := by decide

theorem Draft.read_written_padded :
    ∃ d', Draft.read {} {} ["### A FTI=-9", "    a", "O-3 ", "### B PAD=A TAB=4", "@=9 =x y, z"]
        = (d', none) ∧
      d'.segments = Template.padded ∧ Log.GrowsQuietly [] d'.log := by
  have hlines : Template.padded.written
      = ["### A FTI=-9", "    a", "O-3 ", "### B PAD=A TAB=4", "@=9 =x y, z"] := by decide +kernel
  rw [← hlines]
  exact read_written Template.writable_padded {} {}

end Stencil
