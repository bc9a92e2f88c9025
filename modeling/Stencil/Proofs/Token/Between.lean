/-
# Tokens between texts

What a token is replaced by does not depend on the text around it, and the value is not looked at
again, whatever it holds.  With the delimiters that tokens have at first, only two things in the text
before it can take a token away: an escape at its end, and a token that it leaves open.  A mark that
begins before the token and ends in it would have a `<` behind its first character; the only one is
the escaped start delimiter, and its `<` stands behind the escape (`partAt_start`).

* `substitute_beside`: two texts side by side, for any delimiters;
* `substitute_token`: a token with a value and the text behind it, for any delimiters;
* `substitute_between`: a token with a value between two texts.
-/
import Stencil.Proofs.Token.Enclosed
import Stencil.Proofs.Token.Scanning

namespace Stencil

/-! ## 1. Names with a case flag -/

def CaseFlag.char : CaseFlag → Char
  | lower => '-'
  | upper => '+'
  | same => '='

theorem CaseFlag.ofChar?_char (flag : CaseFlag) : ofChar? flag.char = some flag := by
  cases flag <;> rfl

/-- What stands between the delimiters of a token: the case flag, if it has one, and the name. -/
def Fragment.flagged (flag : Option CaseFlag) (name : String) : String :=
  String.ofList (flag.toList.map CaseFlag.char) ++ name

namespace Fragment

theorem toList_flagged (flag : Option CaseFlag) (name : String) :
    (flagged flag name).toList = flag.toList.map CaseFlag.char ++ name.toList := by
  rw [flagged, String.toList_append, String.toList_ofList]

variable {name : String} (flag : Option CaseFlag)

theorem nameOf_flagged (h : isName name = true) : nameOf (flagged flag name).toList = name := by
  have hplain := nameOf_of_isName h
  rw [toList_flagged]
  cases flag with
  | none => exact hplain
  | some flag =>
    simp only [nameOf, head_of_isName h, Option.isSome_none, Bool.false_eq_true, if_false] at hplain
    simpa [nameOf, CaseFlag.ofChar?_char] using hplain

/-- The flag is read back; without one the case stays. -/
theorem flagOf_flagged (h : isName name = true) :
    flagOf (flagged flag name).toList = flag.getD .same := by
  rw [toList_flagged]
  cases flag with
  | none => exact flagOf_of_isName h
  | some flag => simp [flagOf, CaseFlag.ofChar?_char]

/-- Neither a name nor a case flag has the first character of the end delimiter. -/
theorem not_mem_flagged (h : isName name = true) : '#' ∉ (flagged flag name).toList := by
  rw [toList_flagged]
  intro hmem
  rcases List.mem_append.mp hmem with hflag | hname
  · obtain ⟨flag, -, hchar⟩ := List.mem_map.mp hflag
    -- the flags are three characters, none of which is this one
    cases flag <;> exact absurd hchar (by decide)
  · exact absurd (isNameChar_of_isName h '#' hname) (by decide)

end Fragment

/-! ## 2. Texts side by side -/

section Beside

variable {d : Delimiters} {segment : String} {b : Bindings}

/-- Texts side by side come to what they come to alone, if nothing stands across the seam. -/
theorem substitute_beside {before after : String} (hseam : d.PartAt before.toList after.toList)
    (hclosed : ∀ text, .unterminated text ∉ scan d before.toList) :
    substitute d segment b (before ++ after)
      = ((substitute d segment b before).1 ++ (substitute d segment b after).1,
          (substitute d segment b before).2 ++ (substitute d segment b after).2) := by
  simp only [substitute, String.toList_append, scan_append hseam hclosed, List.map_append,
    List.flatMap_append, String.ofList_append]

/-- A token with a value, and the text behind it. -/
theorem substitute_token {flag : Option CaseFlag} {name v after : String}
    (hstart : d.start ≠ "") (hname : isName name = true) (hv : v ≠ "")
    (hb : b.get? name = some (some v))
    (hescape : ¬ d.escape.toList <+: (d.enclose (Fragment.flagged flag name) ++ after).toList)
    (hend : before? d.stop.toList
        ((Fragment.flagged flag name).toList ++ d.stop.toList ++ after.toList)
      = some (Fragment.flagged flag name).toList) :
    substitute d segment b (d.enclose (Fragment.flagged flag name) ++ after)
      = (Fragment.withFlag (flag.getD .same) v ++ (substitute d segment b after).1,
          (substitute d segment b after).2) := by
  have hexpand : (Fragment.token (Fragment.flagged flag name).toList).expand d segment b
      = ((Fragment.withFlag (flag.getD .same) v).toList, []) := by
    rw [Fragment.expand_of_bound (Fragment.nameOf_flagged flag hname) hname hb hv,
      Fragment.flagOf_flagged flag hname]
  rw [String.toList_append, toList_enclose] at hescape
  have hscan := scan_token after.toList (fun e => hstart (String.toList_eq_nil_iff.mp e)) hescape hend
  simp only [substitute, String.toList_append, toList_enclose, hscan, List.map_cons, hexpand,
    List.flatMap_cons, String.ofList_append, String.ofList_toList, List.nil_append]

end Beside

/-! ## 3. A token between two texts -/

/-- The end delimiter is found where its first character is. -/
theorem before?_of_not_mem {c : Char} {body : List Char} (h : c ∉ body)
    (delimiter rest : List Char) :
    before? (c :: delimiter) (body ++ c :: delimiter ++ rest) = some body := by
  refine before?_eq_some_iff.mpr ⟨List.prefix_append _ rest, fun other hother => ?_⟩
  refine Nat.le_of_not_lt fun hlt => ?_
  have hsplit : other ++ c :: delimiter = other ++ [c] ++ delimiter :=
    List.append_cons other c delimiter
  have hbegins : other ++ [c] <+: body ++ c :: delimiter ++ rest :=
    (hsplit ▸ List.prefix_append (other ++ [c]) delimiter).trans hother
  -- an earlier occurrence would begin within the body, with a character that is not in it
  have hbody : other ++ [c] <+: body := by
    refine List.prefix_of_prefix_length_le hbegins
      ((List.prefix_append body _).trans (List.prefix_append _ rest)) ?_
    rw [List.length_append, List.length_singleton]
    omega
  exact h (hbody.subset (List.mem_append_right other List.mem_cons_self))

/-- Before a start delimiter only an escape can begin a mark that ends in it. -/
theorem Delimiters.partAt_start {cs : List Char} (h : ¬ ['\\'] <:+ cs) (ds : List Char) :
    Delimiters.PartAt {} cs ('<' :: '#' :: ds) := by
  refine partAt_of_divided ?_
  intro left right hleft hright hmark hs hp
  obtain ⟨c, right, rfl⟩ := List.exists_cons_of_ne_nil hright
  obtain ⟨rfl, -⟩ := List.cons_prefix_cons.mp hp
  -- the four marks, at each place where they can be divided
  have hdivided : ∀ mark ∈ Delimiters.marks {}, ∀ k < mark.length, 0 < k →
      (mark.drop k).head? = some '<' → mark.take k = ['\\'] := by
    decide
  have hleft' := hdivided _ hmark left.length (by simp) (List.length_pos_iff.mpr hleft) (by simp)
  rw [List.take_left] at hleft'
  exact h (hleft' ▸ hs)

/-! ## 4. The token and the texts -/

/-- **A token with a value between two texts** comes to the value, as its case flag wants it, and the
texts come to what they come to alone; what there is to say is what there is to say about them.  The
text before the token does not leave a token open and does not end in an escape; the value is any text,
with delimiters and escapes or without. -/
theorem substitute_between {before : String}
    (hclosed : ∀ text, (scan {} before.toList).getLast? ≠ some (.unterminated text))
    (hescape : ¬ ['\\'] <:+ before.toList) {name v : String} (hname : isName name = true)
    (hv : v ≠ "") {b : Bindings} (hb : b.get? name = some (some v)) (segment : String)
    (flag : Option CaseFlag) (after : String) :
    substitute {} segment b
        (before ++ Delimiters.enclose {} (Fragment.flagged flag name) ++ after)
      = ((substitute {} segment b before).1 ++ Fragment.withFlag (flag.getD .same) v
            ++ (substitute {} segment b after).1,
          (substitute {} segment b before).2 ++ (substitute {} segment b after).2) := by
  have hbegins : (Delimiters.enclose {} (Fragment.flagged flag name) ++ after).toList
      = '<' :: '#' :: ((Fragment.flagged flag name).toList ++ ['#', '>'] ++ after.toList) := by
    rw [String.toList_append, toList_enclose]
    rfl
  have htoken : substitute {} segment b
      (Delimiters.enclose {} (Fragment.flagged flag name) ++ after)
        = (Fragment.withFlag (flag.getD .same) v ++ (substitute {} segment b after).1,
            (substitute {} segment b after).2) := by
    refine substitute_token (by decide) hname hv hb ?_ ?_
    · rw [hbegins]
      intro h
      exact absurd (List.cons_prefix_cons.mp h).1 (by decide)
    -- the end delimiter comes first behind the name, whatever follows it
    · exact before?_of_not_mem (Fragment.not_mem_flagged flag hname) ['>'] after.toList
  rw [String.append_assoc, substitute_beside (hbegins ▸ Delimiters.partAt_start hescape _)
    (unterminated_not_mem_scan hclosed), htoken, String.append_assoc]

/-- A value that makes up a token with the text behind it, in which it is not looked for. -/
theorem substitute_between_opening :
    (∀ text, (scan {} "\\<# <#name#>, ".toList).getLast? ≠ some (.unterminated text)) ∧
      ¬ ['\\'] <:+ "\\<# <#name#>, ".toList ∧ isName "name" = true ∧
      substitute {} "Greeting" [("name", some "a<#name")]
          ("\\<# <#name#>, " ++ "<#+name#>" ++ "#> and <#other#>")
        = ("<# a<#name, " ++ "A<#name" ++ "#> and <#other#>",
            [.unboundToken "Greeting" "other"]) := by
  have hclosed : ∀ text, (scan {} "\\<# <#name#>, ".toList).getLast?
      ≠ some (.unterminated text) := by
    have hlast : (scan {} "\\<# <#name#>, ".toList).getLast? = some (.literal [' ']) := by
      decide +kernel
    intro text
    rw [hlast]
    simp
  have hescape : ¬ ['\\'] <:+ "\\<# <#name#>, ".toList := by decide
  have hname : isName "name" = true := by decide
  have hvalue : Table.get? [("name", some "a<#name")] "name" = some (some "a<#name") := by decide
  have h := substitute_between hclosed hescape hname (by decide) hvalue "Greeting" (some .upper)
    "#> and <#other#>"
  exact ⟨hclosed, hescape, hname, h.trans (by decide +kernel)⟩

end Stencil
