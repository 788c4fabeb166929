/-!
# Errors

What can go wrong in an operation, and how it is worded.
-/

namespace DsigRegistry

/-- A failed access to a file. -/
inductive IoError where
  | notFound
  | notADirectory
  | isADirectory
  | nameTooLong
  | nulInName
  | notUtf8
  /-- A failure that a host words itself. -/
  | other (text : String)
deriving DecidableEq

/-- The failure in words, with the system's error number where there is one. -/
def IoError.message : IoError → String
  | .notFound => "No such file or directory (os error 2)"
  | .notADirectory => "Not a directory (os error 20)"
  | .isADirectory => "Is a directory (os error 21)"
  | .nameTooLong => "File name too long (os error 36)"
  | .nulInName => "file name contained an unexpected NUL byte"
  | .notUtf8 => "stream did not contain valid UTF-8"
  | .other text => text

/-- A failed operation. -/
inductive Error where
  /-- The configuration document is missing, malformed, or has another root. -/
  | configDocument (reason : String)
  /-- Nothing is registered under the identifier. -/
  | unsupportedAlgorithm (what : String)
  /-- A policy refused the algorithm. -/
  | algorithmRejected (uri : String)
  /-- An implementation cannot be constructed. -/
  | unavailable (reason : String)
  | canonicalization (reason : String)
  | transform (reason : String)
  | base64 (reason : String)
  | crypto (reason : String)
  /-- The key is of the wrong kind or carries nothing. -/
  | key (reason : String)
  | keyNotFound (name : String)
  /-- No resolver in the chain claimed the reference. -/
  | unresolvable (what : String)
  | invalidUri (reason : String)
  | io (cause : IoError)
  | other (reason : String)
deriving DecidableEq

/-- The error in words. -/
def Error.message : Error → String
  | .configDocument reason => "configuration document error: " ++ reason
  | .unsupportedAlgorithm what => "unsupported algorithm: " ++ what
  | .algorithmRejected uri => "algorithm rejected by policy: " ++ uri
  | .unavailable reason => "implementation unavailable: " ++ reason
  | .canonicalization reason => "canonicalization error: " ++ reason
  | .transform reason => "transform error: " ++ reason
  | .base64 reason => "base64 decode error: " ++ reason
  | .crypto reason => "cryptographic error: " ++ reason
  | .key reason => "key error: " ++ reason
  | .keyNotFound name => "key not found: " ++ name
  | .unresolvable what => "no resolver claimed reference: " ++ what
  | .invalidUri reason => "invalid URI reference: " ++ reason
  | .io cause => "I/O error: " ++ cause.message
  | .other reason => reason

end DsigRegistry
