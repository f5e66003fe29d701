namespace Terminal

inductive FileError where
  | segmentIsFile (name : String)
  | isDirectory (path : String)
  | cannotAppend (path : String)
  | notReadable
  | noSuchFile
  | noSource (path : String)
  | noSuchPath
  | missing (path : String)
  | notADirectory
  | notEmpty
  | invalidPath
  | cannotRenameDirectory
  deriving DecidableEq, Repr

namespace FileError

def message : FileError → String
  | segmentIsFile name => "Path segment is a file: " ++ name
  | isDirectory path => "Is a directory: " ++ path
  | cannotAppend path => "Not a file: " ++ path
  | notReadable => "Not a file"
  | noSuchFile => "No such file"
  | noSource path => "No such file: " ++ path
  | noSuchPath => "No such path"
  | missing path => "No such path: " ++ path
  | notADirectory => "Not a directory"
  | notEmpty => "Directory not empty"
  | invalidPath => "Invalid path"
  | cannotRenameDirectory => "rename: directories not supported"

inductive Kind where
  | pathIsFile
  | notAFile
  | notADirectory
  | noSuchFile
  | noSuchPath
  | directoryNotEmpty
  | invalidPath
  | unsupported
  deriving DecidableEq, Repr

def kind : FileError → Kind
  | segmentIsFile _ => .pathIsFile
  | isDirectory _ | cannotAppend _ | notReadable => .notAFile
  | noSuchFile | noSource _ => .noSuchFile
  | noSuchPath | missing _ => .noSuchPath
  | notADirectory => .notADirectory
  | notEmpty => .directoryNotEmpty
  | invalidPath => .invalidPath
  | cannotRenameDirectory => .unsupported

def Kind.label : Kind → String
  | pathIsFile => "PathIsFileError"
  | notAFile => "NotAFileError"
  | notADirectory => "NotADirError"
  | noSuchFile => "NoSuchFileError"
  | noSuchPath => "NoSuchPathError"
  | directoryNotEmpty => "DirectoryNotEmptyError"
  | invalidPath => "InvalidPathError"
  | unsupported => "UnsupportedOperationError"

end FileError

end Terminal
