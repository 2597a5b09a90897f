import SqlStream.Text.Ascii
import SqlStream.Text.Trim

/-!
# Where requests go over HTTP

The URL of a database and the value of the header that authenticates the client, from what a caller
writes.
-/

namespace SqlStream.Http

open SqlStream.Text

/-- The path that takes requests of streams. -/
def pipelinePath : List Char := "/v2/pipeline".toList

/-- A URL without white space around it, slashes at its end and the path for requests. The scheme
`libsql` stands for `https`. -/
def normalizeUrl (url : String) : String :=
  let trimmed := trimEndOf (fun c => c == '/') (trimSpace url.toList)
  let base := (dropEnd? pipelinePath trimmed).getD trimmed
  match dropFront? "libsql://".toList base with
  | some host => String.ofList ("https://".toList ++ host)
  | none => String.ofList base

/-- The URL to which requests for a database go. -/
def pipelineUrl (baseUrl : String) : String :=
  String.ofList (trimEndOf (fun c => c == '/') baseUrl.toList ++ pipelinePath)

/-- True if the front of a text is a word, in any mixture of cases. -/
def beginsIgnoringCase (word s : List Char) : Bool :=
  sameIgnoringCase word (s.take word.length)

/-- The header for a token, which may have the word `Bearer` in front already. -/
def bearerHeader (token : String) : String :=
  let trimmed := trimSpace token.toList
  if beginsIgnoringCase "bearer ".toList trimmed then String.ofList trimmed
  else String.ofList ("Bearer ".toList ++ trimmed)

/-- True of texts that are empty but for white space. -/
def isBlankText (s : String) : Bool :=
  s.toList.all isWhiteSpace

end SqlStream.Http
