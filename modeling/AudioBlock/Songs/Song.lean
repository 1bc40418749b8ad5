/-
The row of a song and the errors that its services throw.

The song keeps the columns that the embedded services read or write.  Columns of
the analysis, of the AI drafts and of the play counts are left out.  The percentage
of a split is a JSON number that the services only copy.
-/

namespace AudioBlock.Songs

inductive SongStatus
  | processing
  | ready
  | failed
  deriving DecidableEq

inductive MintStatus
  | notMinted
  | pending
  | minting
  | minted
  | failed
  deriving DecidableEq

structure TemplateSplit where
  userId : String
  role : String
  percentage : Rat
  deriving DecidableEq

structure Song where
  id : String
  artistId : String
  coverArtPath : String
  title : String
  description : Option String
  genre : Option String
  genreId : Option String
  composers : Option String
  lyrics : Option String
  language : Option String
  s3OriginalUrl : Option String
  hlsMasterUrl : Option String
  ipfsCid : Option String
  metadataCid : Option String
  duration : Option Int
  loudness : Option Rat
  status : SongStatus
  errorReason : Option String
  mintStatus : MintStatus
  onChainSongId : Option String
  onChainTokenId : Option String
  flagged : Bool
  flaggedAt : Option Nat
  flaggedBy : Option String
  flagReason : Option String
  royaltySplits : Option (List TemplateSplit) := none
  lyricsRightsConfirmedAt : Option Nat := none
  deriving DecidableEq

def Song.uploaded (id artistId title : String) : Song :=
  { id := id
    artistId := artistId
    coverArtPath := "covers/default.png"
    title := title
    description := none
    genre := none
    genreId := none
    composers := none
    lyrics := none
    language := none
    s3OriginalUrl := none
    hlsMasterUrl := none
    ipfsCid := none
    metadataCid := none
    duration := none
    loudness := none
    status := .processing
    errorReason := none
    mintStatus := .notMinted
    onChainSongId := none
    onChainTokenId := none
    flagged := false
    flaggedAt := none
    flaggedBy := none
    flagReason := none }

def truthy (text : Option String) : Option String :=
  text.filter fun written => decide (written ≠ "")

/-- A thrown error; a plain `Error` has neither a status nor a code. -/
structure AppError where
  message : String
  statusCode : Option Nat
  code : Option String
  deriving DecidableEq

namespace AppError

def plain (message : String) : AppError := ⟨message, none, none⟩

/-- A plain `Error` with an assigned status. -/
def withStatus (message : String) (statusCode : Nat) : AppError := ⟨message, some statusCode, none⟩

def validation (message : String) (code : String := "VALIDATION_FAILED") : AppError :=
  ⟨message, some 400, some code⟩

def authorization (message : String) (code : String := "FORBIDDEN") : AppError :=
  ⟨message, some 403, some code⟩

def notFound (message : String) (code : String := "NOT_FOUND") : AppError :=
  ⟨message, some 404, some code⟩

def conflict (message : String) (code : String := "CONFLICT") : AppError :=
  ⟨message, some 409, some code⟩

end AppError

end AudioBlock.Songs
