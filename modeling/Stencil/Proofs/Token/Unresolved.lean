/-
# Texts that stay as they are

What cannot be resolved is written out as it stands in the text: a token without an end, without a
name, with a name that is invalid or has no value, and an escape that is before neither delimiter.  So
a text with nothing but such things in it stays as it is, whatever their mix.

The argument goes along the text.  The source of a fragment is the piece of the text that it takes,
unless it is a delimiter behind its escape (`source_nextFragment`), and with non-empty delimiters the
pieces follow each other to the end of the text (`scansTo_scan`).

* `ScansTo.flatMap_source`: the sources of the fragments, one after the other, are the text;
* `substitute_unresolved`: a text in which nothing is escaped and no name has a value.
-/
import Stencil.Proofs.Token.Scanning
import Stencil.Token.Substitution

namespace Stencil

/-! ## 1. Scanning to the end -/

/-- The fragments that are found in a text, each behind what the one before it takes, until nothing is
left.  Where a fragment takes nothing, the text has no such list: it would be found again for ever. -/
inductive ScansTo (d : Delimiters) : List Char → List Fragment → Prop
  | done : ScansTo d [] []
  | next {cs : List Char} {fs : List Fragment} : cs ≠ [] →
      ScansTo d (cs.drop (nextFragment d cs).2) fs → ScansTo d cs ((nextFragment d cs).1 :: fs)

/-- **Scanning ends** with the fragments of the text. -/
theorem scansTo_scan {d : Delimiters} (hescape : d.escape ≠ "") (hstart : d.start ≠ "")
    (cs : List Char) : ScansTo d cs (scan d cs) := by
  fun_induction scan d cs with
  | case1 => exact .done
  | case2 c rest fragment width hnext ih =>
    have hwidth := nextFragment_width_pos hescape hstart (List.cons_ne_nil c rest)
    rw [hnext] at hwidth
    -- the fragment takes at least one character, so that the scanner goes on behind it
    have hrest : (c :: rest).drop width = rest.drop (width - 1) :=
      List.drop_cons hwidth
    have hstep : ScansTo d (c :: rest) ((nextFragment d (c :: rest)).1 :: scan d _) :=
      .next (List.cons_ne_nil c rest) (by rw [hnext, hrest]; exact ih)
    rw [hnext] at hstep
    exact hstep

/-! ## 2. What the fragments take -/

/-- In a text no delimiter stands directly behind an escape. -/
structure Delimiters.NoneEscapedIn (d : Delimiters) (cs : List Char) : Prop where
  start : ¬ d.escape.toList ++ d.start.toList <:+: cs
  stop : ¬ d.escape.toList ++ d.stop.toList <:+: cs

/-- Nothing is escaped in the end of such a text either. -/
theorem Delimiters.NoneEscapedIn.of_suffix {d : Delimiters} {cs cs' : List Char}
    (h : d.NoneEscapedIn cs) (hs : cs' <:+ cs) : d.NoneEscapedIn cs' :=
  ⟨fun hi => h.start (hi.trans hs.isInfix), fun hi => h.stop (hi.trans hs.isInfix)⟩

/-- The source of a fragment is the piece of the text that it takes. -/
theorem source_nextFragment {d : Delimiters} {cs : List Char} (h : d.NoneEscapedIn cs) :
    (nextFragment d cs).1.source d = cs.take (nextFragment d cs).2 := by
  have hstart : ¬ d.escape.toList ++ d.start.toList <+: cs := fun hp => h.start hp.isInfix
  have hstop : ¬ d.escape.toList ++ d.stop.toList <+: cs := fun hp => h.stop hp.isInfix
  rw [nextFragment_eq, if_neg hstart, if_neg hstop]
  split
  · rename_i hescape
    exact List.prefix_iff_eq_take.mp hescape
  · split
    · rename_i hbegins
      split
      -- a token that is not closed takes what is left, and is written as it stands
      · exact List.take_length.symm
      · rename_i body hbody
        have htoken : d.start.toList ++ (body ++ d.stop.toList) <+: cs :=
          (prefix_drop_iff hbegins).mp (prefix_of_before?_eq_some hbody)
        rw [Fragment.source, List.append_assoc]
        exact List.prefix_iff_eq_take.mp htoken
    · rfl

/-- The sources of the fragments, one after the other, are the text. -/
theorem ScansTo.flatMap_source {d : Delimiters} {cs : List Char} {fs : List Fragment}
    (h : ScansTo d cs fs) (hnone : d.NoneEscapedIn cs) : fs.flatMap (Fragment.source d) = cs := by
  induction h with
  | done => rfl
  | @next cs fs _ _ ih =>
    have hrest := ih (hnone.of_suffix (List.drop_suffix _ _))
    rw [List.flatMap_cons, source_nextFragment hnone, hrest, List.take_append_drop]

/-! ## 3. Substitution -/

/-- **What cannot be resolved is reproduced.**  A text in which no delimiter is escaped and no name
has a value is scanned to its end and stays as it is. -/
theorem substitute_unresolved {d : Delimiters} {b : Bindings} {text : String}
    (hescape : d.escape ≠ "") (hstart : d.start ≠ "") (hnone : d.NoneEscapedIn text.toList)
    (hunbound : ∀ name ∈ Tokens.namesIn d text, b.get? name = none) (segment : String) :
    ScansTo d text.toList (scan d text.toList) ∧ (substitute d segment b text).1 = text := by
  have hscan := scansTo_scan hescape hstart text.toList
  refine ⟨hscan, ?_⟩
  calc (substitute d segment b text).1
      = String.ofList ((scan d text.toList).flatMap (Fragment.source d)) :=
        substitute_of_unbound fun f hf name hname =>
          hunbound name (Tokens.mem_namesIn_iff.mpr ⟨f, hf, hname⟩)
    _ = String.ofList text.toList := congrArg String.ofList (hscan.flatMap_source hnone)
    _ = text := String.ofList_toList

/-- Two escapes by themselves, an empty and a blank token, one with a flag and a name without a value,
one with an invalid name, and one that does not end. -/
theorem substitute_unresolved_mixed :
    Tokens.namesIn {} "\\ <##> <# #> <#+ a #> <#-2#> \\ <#b" = ["a"] ∧
      ScansTo {} "\\ <##> <# #> <#+ a #> <#-2#> \\ <#b".toList
        (scan {} "\\ <##> <# #> <#+ a #> <#-2#> \\ <#b".toList) ∧
      (substitute {} "Greeting" [("b", some "B")] "\\ <##> <# #> <#+ a #> <#-2#> \\ <#b").1
        = "\\ <##> <# #> <#+ a #> <#-2#> \\ <#b" := by
  have hnames : Tokens.namesIn {} "\\ <##> <# #> <#+ a #> <#-2#> \\ <#b" = ["a"] := by
    decide +kernel
  have hnone : Delimiters.NoneEscapedIn {} "\\ <##> <# #> <#+ a #> <#-2#> \\ <#b".toList :=
    ⟨by decide +kernel, by decide +kernel⟩
  exact ⟨hnames, substitute_unresolved (by decide) (by decide) hnone
    (by rw [hnames]; decide) "Greeting"⟩

end Stencil
