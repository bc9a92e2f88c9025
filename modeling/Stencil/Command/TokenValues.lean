/-
# Token values on the command line

Values for tokens come as `NAME=VALUE` arguments, which hold for every segment that uses the name,
and from a file that maps the names of segments to objects of values, which takes precedence.

* `parseArg_written`: a name without an equals sign is read back, with any value.
-/
import Stencil.Command.Outcome
import Stencil.Text.Lines

namespace Stencil

namespace Command

/-! ## 1. Arguments -/

/-- Takes an argument apart at its first equals sign; the name must not be empty. -/
def parseArg (item : String) : Except Fault (String × String) :=
  let name := item.toList.takeWhile (· ≠ '=')
  match item.toList.dropWhile (· ≠ '=') with
  | [] => .error (.malformedToken item)
  | _ :: value =>
    if name = [] then .error (.malformedToken item)
    else .ok (String.ofList name, String.ofList value)

/-- The values of a list of arguments, or the first argument that is none. -/
def parseArgs (items : List String) : Except Fault (Table String String) :=
  (items.mapM parseArg).map Table.ofPairs

theorem parseArg_written {name value : String} (hname : name ≠ "") (heq : '=' ∉ name.toList) :
    parseArg (name ++ "=" ++ value) = .ok (name, value) := by
  have hkey : ∀ c ∈ name.toList, decide (c ≠ '=') = true := by
    intro c hc
    exact decide_eq_true fun e => heq (e ▸ hc)
  have hne : name.toList ≠ [] := fun e => hname (String.toList_eq_nil_iff.mp e)
  simp only [parseArg, String.toList_append, List.append_assoc]
  rw [List.takeWhile_append_of_pos hkey, List.dropWhile_append_of_pos hkey]
  simp [hne]

/-! ## 2. The file -/

/-- Values by segment and name. -/
abbrev SegmentValues := Table String (List (String × Json))

/-- The values that a JSON text gives. -/
def ofJson (v : Json) : Except Fault SegmentValues :=
  match v with
  | .object members =>
    members.mapM fun (segment, v) =>
      match v with
      | .object values => .ok (segment, values)
      | _ => .error .malformedTokenFile
  | _ => .error .malformedTokenFile

def readValues (t : FileTree) (path : String) : Except Fault SegmentValues :=
  let p := Path.ofString path
  if p.hasNull then .error (.aborted (.badPath .nullCharacter))
  else
    match t.readFile p with
    | .error f => .error (.unreadableTokenFile f)
    | .ok bytes =>
      match Text.decodeUtf8 bytes with
      | .error f => .error (.undecodableTokenFile f)
      | .ok cs =>
        match Json.read (Text.unifyNewlines cs) with
        | .error f => .error (.invalidTokenFile f)
        | .ok v => ofJson v

/-! ## 3. The values of a segment -/

/-- The values for a segment whose token names are known; `none` if there are none. -/
def valuesFor (known : List String) (args : Table String String) (file : SegmentValues)
    (segment : String) : Option Values :=
  let fromArgs := (args.filter fun (name, _) => name ∈ known).map fun (name, v) =>
    (ValueKey.name name, Json.string v)
  let fromFile := ((file.get? segment).getD []).map fun (name, v) => (ValueKey.name name, v)
  match Table.update fromArgs fromFile with
  | [] => none
  | values => some values

end Command

end Stencil
