/-
# Texts without tokens

Any text can be written so that nothing in it is a token: with the escape before each delimiter.  This
holds of every accepted set of delimiters whose escape is a single character that is in neither of the
others, also if one of these begins with the other, or ends in what the other begins with.

The reason is that quoting does not make up delimiters.  What is written where a delimiter was begins
with the escape, and between two escapes the quoted text is a part of the text itself; so a delimiter
with which a quoted text begins would be there before (`prefix_of_prefix_quoteChars`), where it would
have been quoted (`not_prefix_quoteChars`).

* `scan_quoteChars`: a quoted text has literal fragments only, and they make up the text;
* `substitute_quote`: it comes to the text in every segment and with any values, and has no names.
-/
import Stencil.Proofs.Token.Scanning
import Stencil.Token.Substitution

namespace Stencil

/-! ## 1. Quoting -/

/-- The text with the escape before each delimiter that is found from the left; where both begin, the
start delimiter is the one that is found. -/
def Delimiters.quoteChars (d : Delimiters) (cs : List Char) : List Char :=
  match cs with
  | [] => []
  | c :: rest =>
    if d.start.toList <+: c :: rest then
      d.escape.toList ++ d.start.toList ++ d.quoteChars (rest.drop (d.start.toList.length - 1))
    else if d.stop.toList <+: c :: rest then
      d.escape.toList ++ d.stop.toList ++ d.quoteChars (rest.drop (d.stop.toList.length - 1))
    else c :: d.quoteChars rest
termination_by cs.length
decreasing_by
  all_goals
    simp only [List.length_drop, List.length_cons]
    omega

/-- A text as it is written so that it stands for itself. -/
def Delimiters.quote (d : Delimiters) (text : String) : String :=
  String.ofList (d.quoteChars text.toList)

/-- The escape is a single character, and it is in neither of the other two. -/
structure Delimiters.EscapedBy (d : Delimiters) (e : Char) : Prop where
  escape : d.escape.toList = [e]
  start : e ∉ d.start.toList
  stop : e ∉ d.stop.toList

/-! ## 2. Quoting makes up no delimiters -/

section Quoted

variable {d : Delimiters} {e : Char}

/-- What begins with the escape begins with no text without it. -/
theorem eq_nil_of_prefix_escape (he : d.EscapedBy e) {w cs : List Char} (hw : e ∉ w)
    (h : w <+: d.escape.toList ++ cs) : w = [] := by
  cases w with
  | nil => rfl
  | cons c w =>
    rw [he.escape] at h
    obtain ⟨rfl, -⟩ := List.cons_prefix_cons.mp h
    exact absurd List.mem_cons_self hw

/-- What a quoted text begins with, up to its first escape, the text itself begins with. -/
theorem prefix_of_prefix_quoteChars (he : d.EscapedBy e) {w cs : List Char} (hw : e ∉ w)
    (h : w <+: d.quoteChars cs) : w <+: cs := by
  fun_induction Delimiters.quoteChars d cs generalizing w with
  | case1 => exact h
  -- a delimiter was here, and stands behind an escape
  | case2 c rest _ _ | case3 c rest _ _ _ =>
    rw [List.append_assoc] at h
    rw [eq_nil_of_prefix_escape he hw h]
    exact List.nil_prefix
  | case4 c rest _ _ ih =>
    cases w with
    | nil => exact List.nil_prefix
    | cons x w =>
      obtain ⟨rfl, hrest⟩ := List.cons_prefix_cons.mp h
      exact List.cons_prefix_cons.mpr ⟨rfl, ih (fun hmem => hw (List.mem_cons_of_mem _ hmem)) hrest⟩

/-- Where a delimiter was, a quoted text begins with the escape. -/
theorem not_delimiter_of_unescaped (he : d.EscapedBy e) {w cs : List Char} (hne : w ≠ []) (hw : e ∉ w)
    (h : w <+: d.quoteChars cs) : ¬ d.start.toList <+: cs ∧ ¬ d.stop.toList <+: cs := by
  fun_cases Delimiters.quoteChars d cs with
  | case1 =>
    rw [Delimiters.quoteChars] at h
    exact absurd (List.prefix_nil.mp h) hne
  | case2 c rest hstart =>
    rw [Delimiters.quoteChars, if_pos hstart, List.append_assoc] at h
    exact absurd (eq_nil_of_prefix_escape he hw h) hne
  | case3 c rest hstart hstop =>
    rw [Delimiters.quoteChars, if_neg hstart, if_pos hstop, List.append_assoc] at h
    exact absurd (eq_nil_of_prefix_escape he hw h) hne
  | case4 c rest hstart hstop => exact ⟨hstart, hstop⟩

/-- A quoted text begins with neither delimiter. -/
theorem not_prefix_quoteChars (he : d.EscapedBy e) (hd : d.Legal) (cs : List Char) :
    ¬ d.start.toList <+: d.quoteChars cs ∧ ¬ d.stop.toList <+: d.quoteChars cs := by
  obtain ⟨hstart, hstop, -⟩ := hd.toList_ne_nil
  constructor
  · intro h
    exact (not_delimiter_of_unescaped he hstart he.start h).1
      (prefix_of_prefix_quoteChars he he.start h)
  · intro h
    exact (not_delimiter_of_unescaped he hstop he.stop h).2
      (prefix_of_prefix_quoteChars he he.stop h)

/-! ## 3. The fragments of a quoted text -/

/-- A text that begins with another is that and what is left. -/
theorem cons_eq_append_drop {w rest : List Char} {c : Char} (hne : w ≠ []) (h : w <+: c :: rest) :
    c :: rest = w ++ rest.drop (w.length - 1) := by
  obtain ⟨x, w, rfl⟩ := List.exists_cons_of_ne_nil hne
  obtain ⟨rfl, hrest⟩ := List.cons_prefix_cons.mp h
  obtain ⟨tail, rfl⟩ := hrest
  simp

/-- **A quoted text has literal fragments only**, and they make up the text. -/
theorem scan_quoteChars (he : d.EscapedBy e) (hd : d.Legal) (cs : List Char) :
    ∃ pieces : List (List Char),
      scan d (d.quoteChars cs) = pieces.map .literal ∧ pieces.flatten = cs := by
  obtain ⟨hstartne, hstopne, hescape⟩ := hd.toList_ne_nil
  fun_induction Delimiters.quoteChars d cs with
  | case1 => exact ⟨[], scan_nil d, rfl⟩
  | case2 c rest hstart ih =>
    obtain ⟨pieces, hscan, htext⟩ := ih
    refine ⟨d.start.toList :: pieces, ?_, ?_⟩
    · rw [scan_escaped_start _ hescape, hscan, List.map_cons]
    · rw [List.flatten_cons, htext, ← cons_eq_append_drop hstartne hstart]
  | case3 c rest hstart hstop ih =>
    obtain ⟨pieces, hscan, htext⟩ := ih
    have hcs := cons_eq_append_drop hstopne hstop
    refine ⟨d.stop.toList :: pieces, ?_, ?_⟩
    · -- a start delimiter that reaches over the end delimiter would begin the text
      have hnot : ¬ d.start.toList
          <+: d.stop.toList ++ d.quoteChars (rest.drop (d.stop.toList.length - 1)) := by
        intro h
        apply hstart
        rw [hcs]
        rcases prefix_append_cases h with hwithin | ⟨tail, htail, hquoted⟩
        · exact hwithin.trans (List.prefix_append _ _)
        · have hmem : e ∉ tail := fun hmem => he.start (htail ▸ List.mem_append_right _ hmem)
          rw [htail, List.prefix_append_right_inj]
          exact prefix_of_prefix_quoteChars he hmem hquoted
      rw [scan_escaped_stop _ hescape hnot, hscan, List.map_cons]
    · rw [List.flatten_cons, htext, ← hcs]
  | case4 c rest hstart hstop ih =>
    obtain ⟨pieces, hscan, htext⟩ := ih
    refine ⟨[c] :: pieces, ?_, ?_⟩
    -- the character is the escape, before which no delimiter stands, or an ordinary one
    · by_cases hc : c = e
      · obtain ⟨hnostart, hnostop⟩ := not_prefix_quoteChars he hd rest
        have hlone := scan_escape (d.quoteChars rest) hescape hnostart hnostop
        rw [he.escape] at hlone
        rw [hc, ← List.singleton_append, hlone, hscan, List.map_cons]
      · have hnoescape : ¬ d.escape.toList <+: c :: d.quoteChars rest := by
          rw [he.escape]
          intro h
          exact hc (List.cons_prefix_cons.mp h).1.symm
        have hnostart : ¬ d.start.toList <+: c :: d.quoteChars rest := by
          have hquoted : d.quoteChars (c :: rest) = c :: d.quoteChars rest := by
            rw [Delimiters.quoteChars, if_neg hstart, if_neg hstop]
          exact hquoted ▸ (not_prefix_quoteChars he hd (c :: rest)).1
        rw [scan_char _ hnoescape hnostart, hscan, List.map_cons]
    · rw [List.flatten_cons, htext, List.singleton_append]

end Quoted

/-! ## 4. What a quoted text comes to -/

section Literals

variable {d : Delimiters} {text : String} {pieces : List (List Char)}

/-- Literal fragments come to themselves, with nothing to say about them. -/
theorem substitute_of_literals (h : scan d text.toList = pieces.map .literal) (segment : String)
    (b : Bindings) : substitute d segment b text = (String.ofList pieces.flatten, []) := by
  have hparts : (scan d text.toList).map (·.expand d segment b) = pieces.map (·, []) := by
    rw [h, List.map_map]
    rfl
  simp [substitute, hparts, List.flatMap_def, Function.comp_def]

/-- Literal fragments have no names. -/
theorem knownOf_extract_of_literals (h : scan d text.toList = pieces.map .literal) (t : Tokens)
    (segment other : String) : (t.extract d segment text).knownOf other = t.knownOf other := by
  have hnames : Tokens.namesIn d text = [] := by
    simp [Tokens.namesIn, h, Fragment.tokenName?]
  simp only [Tokens.extract, hnames, List.foldl_nil, Tokens.knownOf]
  by_cases hother : segment = other
  · rw [hother, Table.get?_put_self]
    rfl
  · rw [Table.get?_put_of_ne _ _ hother]

end Literals

/-- **Escapes can express any text**: quoted, it comes to itself, in every segment and whatever values
there are, nothing is said about it, and it adds to the names of no segment. -/
theorem substitute_quote {start stop escape : Option String} {d : Delimiters} {e : Char}
    (hd : (Delimiters.change start stop escape).1 = some d) (he : d.EscapedBy e) (text : String) :
    (∀ segment b, substitute d segment b (d.quote text) = (text, [])) ∧
      ∀ (t : Tokens) (segment other : String),
        (t.extract d segment (d.quote text)).knownOf other = t.knownOf other := by
  obtain ⟨pieces, hscan, htext⟩ := scan_quoteChars he (Delimiters.legal_of_change hd) text.toList
  rw [← String.toList_ofList (l := d.quoteChars text.toList)] at hscan
  constructor
  · intro segment b
    have hcomes := substitute_of_literals hscan segment b
    rwa [htext, String.ofList_toList] at hcomes
  · intro t segment other
    exact knownOf_extract_of_literals hscan t segment other

/-- Delimiters that overlap with each other, in a text with escapes before them and between them. -/
theorem substitute_quote_overlapping :
    (Delimiters.change (some "aba") (some "ab") (some "/")).1 = some ⟨"aba", "ab", "/"⟩ ∧
      Delimiters.quote ⟨"aba", "ab", "/"⟩ "/ababab/a/" = "//abab/ab/a/" ∧
      substitute ⟨"aba", "ab", "/"⟩ "Greeting" [("name", some "Bob")] "//abab/ab/a/"
        = ("/ababab/a/", []) := by
  have hd : (Delimiters.change (some "aba") (some "ab") (some "/")).1 = some ⟨"aba", "ab", "/"⟩ := by
    decide
  have he : Delimiters.EscapedBy ⟨"aba", "ab", "/"⟩ '/' := ⟨by decide, by decide, by decide⟩
  have hquote : Delimiters.quote ⟨"aba", "ab", "/"⟩ "/ababab/a/" = "//abab/ab/a/" := by
    decide +kernel
  have h := (substitute_quote hd he "/ababab/a/").1 "Greeting" [("name", some "Bob")]
  exact ⟨hd, hquote, hquote ▸ h⟩

end Stencil
