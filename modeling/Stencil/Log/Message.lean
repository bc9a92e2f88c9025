/-
# Messages

Everything that the library has to say about a template, by cause.  A message names the segment,
token, option or line that it is about; `Message.text` is the only place that puts it into words.

Some messages are about a segment or a text that the caller did not give.  They keep the place of
the missing argument open, written as a number in braces.
-/
import Stencil.Files.Fault
import Stencil.Position
import Stencil.Segment
import Stencil.Template.Fault
import Stencil.Text.Utf8
import Stencil.Token.Delimiters

namespace Stencil

/-! ## 1. The messages -/

/-- What there is to say. -/
inductive Message where
  -- setting up
  | tabSizeTooLarge (used : Int)
  | tabSizeTooSmall (used : Int)
  | delimitersRefused (fault : DelimiterFault)
  | startEndsInFlag
  | delimitersRejected
  -- loading
  | loading (template : String)
  | emptyTemplate (template : String)
  | loadFailed (template : String) (fault : LoadFault) (line : Int)
  | repeatedLoad (file : String)
  | loadBeforeWrite (next previous : String)
  | undecodable (fault : Text.Utf8Fault)
  | fileNotFound (path : String)
  | blankPath
  | namesExhausted (limit : NameLimit)
  -- reading lines and headers
  | lineTooShort
  | fourthColumnNotBlank (line : String)
  | invalidControlCode (line : String)
  | loadingStopped (line : Int)
  | nameNotInColumnFive (default : String)
  | invalidSegmentName (name default : String)
  | duplicateSegmentName (name default : String)
  | segmentAdded (segment : String)
  | noTextLines (segment : String)
  | missingFirstHeader (segment : String)
  | malformedOption (segment option : String)
  | optionWithoutKey (segment : String)
  | optionWithoutValue (segment : String) (key : OptionKey)
  | unknownOption (segment option : String)
  | duplicateOption (segment : String) (key : OptionKey)
  | zeroFirstTimeIndent (segment : String)
  | indentOutOfRange (value : Int)
  | indentNotANumber (text : Option String)
  | tabSizeOutOfRange (value : Int)
  | tabSizeNotANumber (text : Option String)
  | invalidPadName (segment pad : String)
  | padNotDefinedEarlier (segment pad : String)
  | padIsItself (segment : String)
  | padHasPad (segment pad : String)
  -- tokens
  | tokenWithoutName
  | invalidTokenName (name : String)
  | unterminatedToken
  | unboundToken (segment name : String)
  | emptyValue (segment name : String)
  | absentValue (segment name : String)
  | noValues (segment : Option String)
  | absentValues (segment : Option String)
  | invalidValueName (segment : Option String) (name : String)
  | unknownValueName (segment : Option String) (name : String)
  -- rendering
  | rendering (segment : String)
  | indentTruncated (segment : String)
  | firstTimeIndentTruncated (segment : String)
  | blankSegmentName
  | renderBeforeLoad (segment : String)
  | unknownSegment (segment : String)
  | segmentWithoutLines (segment : String)
  -- writing
  | writingFile (path : String)
  | nothingToWrite (path : String)
  | writeFailed (fault : FileFault)
  -- starting over
  | templateReset (template : String)
  | outputReset (template : String)
  | segmentReset (segment : String)
  | segmentNotReset (segment : String)
  -- from outside
  | custom (text : String)
  deriving DecidableEq, Repr

/-! ## 2. Their wording -/

namespace Message

/-- The first argument of a message, or its place. -/
def first (arg : Option String) : String := arg.getD "\x7b0\x7d"

/-- The second argument of a message; its place stays open along with the first. -/
def second (arg : Option String) (other : String) : String :=
  if arg.isSome then other else "\x7b1\x7d"

def text : Message → String
  | tabSizeTooLarge used =>
    s!"The requested tab size is too large. The maximum value \"{used}\" will be used."
  | tabSizeTooSmall used =>
    s!"The requested tab size is too small. The minimum value \"{used}\" will be used."
  | delimitersRefused fault => fault.message
  | startEndsInFlag =>
    "Ending the token start delimiter with '-', '+' or '=' may cause confusion and lead to " ++
      "unexpected errors."
  | delimitersRejected =>
    "The token delimiters were rejected. All templates and settings have been reset."
  | loading template => s!"Loading template \"{template}\""
  | emptyTemplate template => s!"This template is empty: {template}"
  | loadFailed template fault line =>
    s!"Unable to load template \"{template}\". ({fault.word} error at line {line})"
  | repeatedLoad file =>
    s!"Attempted to load template file \"{file}\" more than once. " ++
      "Repeat loads will be ignored."
  | loadBeforeWrite next previous =>
    s!"Template file \"{next}\" is being loaded before any output was written for template " ++
      s!"file \"{previous}\"."
  | undecodable fault =>
    "An error occurred while reading the template file. " ++ fault.message
  | fileNotFound path => s!"The template file was not found: {path}"
  | blankPath => "The template file path must not be empty or contain only whitespace."
  | namesExhausted limit => "Ran out of default segment names. " ++ limit.message
  | lineTooShort =>
    "All lines in the template must be at least 3 characters long. The line will be ignored."
  | fourthColumnNotBlank line =>
    s!"The fourth character of each template line should be blank:\n{line}\n   ^"
  | invalidControlCode line =>
    s!"The following template line doesn't begin with a valid control code:\n{line}\n^^^"
  | loadingStopped line =>
    s!"Loading stopped at line {line} because of a template syntax error."
  | nameNotInColumnFive default =>
    "The segment name must start in column 5 of the segment header line. " ++
      s!"The default name \"{default}\" will be used instead."
  | invalidSegmentName name default =>
    s!"\"{name}\" is not a valid segment name. " ++
      s!"The default name \"{default}\" will be used instead."
  | duplicateSegmentName name default =>
    s!"Segment name \"{name}\" appears more than once in the template. " ++
      s!"Default name \"{default}\" will be used in place of the duplicate."
  | segmentAdded segment => s!"Segment \"{segment}\" has been added to the control dictionary."
  | noTextLines segment =>
    s!"The header line for segment \"{segment}\" must be followed by one or more valid text " ++
      "lines. The segment will be ignored."
  | missingFirstHeader segment =>
    "The template is missing the initial segment header. " ++
      s!"The default segment \"{segment}\" will be used."
  | malformedOption segment option =>
    "Segment options must follow the form \"option=value\" with no intervening spaces. " ++
      s!"Found \"{option}\" on the \"{segment}\" segment header."
  | optionWithoutKey segment =>
    "An option name must appear immediately before the equals sign with no intervening spaces " ++
      s!"in the \"{segment}\" segment header."
  | optionWithoutValue segment key =>
    s!"The value for option \"{key.name}\" must appear immediately after the equals sign with " ++
      s!"no intervening spaces in the \"{segment}\" segment header."
  | unknownOption segment option =>
    s!"An unknown segment option \"{option}\" was found on segment \"{segment}\". " ++
      "It will be ignored."
  | duplicateOption segment key =>
    s!"The option \"{key.name}\" appears more than once for segment \"{segment}\". " ++
      "Only the first occurrence will be used."
  | zeroFirstTimeIndent segment =>
    s!"Found a First Time Indent option value of zero for segment \"{segment}\". " ++
      "This value disables the First Time Indent processing."
  | indentOutOfRange value =>
    s!"The FTI option value must be a number between -9 and 9. The value given was {value}."
  | indentNotANumber text =>
    s!"The indent value \"{first text}\" is not a valid integer value."
  | tabSizeOutOfRange value =>
    s!"The tab size must be an integer between 1 and 9, but the specified value was \"{value}\"."
  | tabSizeNotANumber text =>
    s!"The tab size value \"{first text}\" is not a valid integer value."
  | invalidPadName segment pad =>
    s!"\"{pad}\" is not a valid name for the PAD option for segment \"{segment}\". " ++
      "It will be ignored."
  | padNotDefinedEarlier segment pad =>
    s!"The PAD segment name \"{pad}\" referenced by segment \"{segment}\" must be defined " ++
      "earlier in the template. It will be ignored."
  | padIsItself segment =>
    s!"The PAD segment name and segment header name for segment \"{segment}\" are identical. " ++
      "The PAD segment name will be ignored."
  | padHasPad segment pad =>
    s!"Pad segment \"{pad}\" specified for segment \"{segment}\" also contains a pad segment. " ++
      "Multiple levels of pad segments are not allowed."
  | tokenWithoutName =>
    "Found token start and end delimiters with no token name between them. " ++
      "The token will be ignored."
  | invalidTokenName name =>
    s!"Found a token with an invalid name: \"{name}\". It will be ignored."
  | unterminatedToken =>
    "Found a token start delimiter with no matching end delimiter. The token will be ignored."
  | unboundToken segment name =>
    s!"The token name \"{name}\" in segment {segment} wasn't found in the token dictionary. " ++
      "It will be output as is."
  | emptyValue segment name =>
    s!"Token \"{name}\" has an empty value while generating segment \"{segment}\"."
  | absentValue segment name =>
    s!"Token \"{name}\" has no assigned value while generating segment \"{segment}\"."
  | noValues segment =>
    s!"An empty token dictionary was supplied for segment \"{first segment}\"."
  | absentValues segment =>
    s!"A null token dictionary was supplied for segment \"{first segment}\"."
  | invalidValueName segment name =>
    s!"The token dictionary contained an invalid token name \"{second segment name}\" for " ++
      s!"segment \"{first segment}\"."
  | unknownValueName segment name =>
    s!"An unknown token name \"{second segment name}\" was supplied for segment " ++
      s!"\"{first segment}\". It will be ignored."
  | rendering segment => s!"Processing segment \"{segment}\"..."
  | indentTruncated segment =>
    s!"The calculated line indent for segment \"{segment}\" went negative. " ++
      "It will be set to zero."
  | firstTimeIndentTruncated segment =>
    s!"The calculated first time indent for segment \"{segment}\" went negative. " ++
      "It will be set to zero."
  | blankSegmentName =>
    "The segment name passed into generate_segment was null, empty or whitespace."
  | renderBeforeLoad segment =>
    s!"An attempt was made to generate segment \"{segment}\" before the template was loaded."
  | unknownSegment segment =>
    s!"A request was made to generate segment \"{segment}\" but that segment wasn't found in " ++
      "the template."
  | segmentWithoutLines segment =>
    s!"Tried to generate segment \"{segment}\" but the segment has no text lines."
  | writingFile path => s!"Writing generated text to file \"{path}\""
  | nothingToWrite path =>
    s!"The generated text is empty. Unable to write to output file \"{path}\"."
  | writeFailed fault => "Unable to write to output file. " ++ fault.message
  | templateReset template => s!"The environment for template \"{template}\" has been reset."
  | outputReset template =>
    s!"The generated text cache for template \"{template}\" has been reset."
  | segmentReset segment => s!"Segment \"{segment}\" has been reset."
  | segmentNotReset segment =>
    s!"Unable to reset segment \"{segment}\" because of a null or unknown segment name."
  | custom text => text

end Message

end Stencil
