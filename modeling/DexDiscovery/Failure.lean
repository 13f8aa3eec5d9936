import DexDiscovery.Dex.Error

/-!
# Failures

Why an operation of the library fails.  **`malformed`** collects what is wrong with the content of
an input file; a lenient run reports such a file as skipped and goes on.  Every other failure ends
the run, whichever way it is run.
-/

namespace DexDiscovery

/-- The largest size of an input file that is accepted. -/
structure SizeLimit where
  /-- In bytes; without a number there is no limit. -/
  greatest? : Option Int
  /-- The limit as it is shown. -/
  shown : Text
deriving DecidableEq, Repr

namespace SizeLimit

/-- A limit in bytes. -/
def ofInt (greatest : Int) : SizeLimit :=
  { greatest? := some greatest, shown := Text.grouped greatest }

/-- Where no limit is chosen, it is 256 MiB. -/
def default : SizeLimit :=
  ofInt 268435456

/-- Whether a size is accepted. -/
def admits (l : SizeLimit) (size : Nat) : Bool :=
  l.greatest?.all fun greatest => (size : Int) ≤ greatest

end SizeLimit

/-- What is wrong with the content of an input file. -/
inductive InputFault where
  /-- It holds an image that cannot be read. -/
  | image (error : DexError)
  | tooLarge (path : Text) (size : Nat) (limit : SizeLimit)
  /-- It begins neither like an image nor like an archive. -/
  | unknownFormat (path : Text)
  /-- It is an archive without an image at its top level. -/
  | noImages (path : Text)
  | corruptArchive (path : Text)
deriving DecidableEq, Repr

/-- The message of a fault. -/
def InputFault.message : InputFault → Text
  | image error => error.message
  | tooLarge path size limit =>
    path ++ ": file too large (" ++ Text.grouped size ++ " bytes, max " ++ limit.shown ++ ")"
  | unknownFormat path => path ++ ": not a dex file or APK"
  | noImages path => path ++ ": archive contains no classes.dex"
  | corruptArchive path => path ++ ": corrupt archive"

/-- Why an operation fails. -/
inductive Failure where
  | malformed (fault : InputFault)
  /-- A matched class has a descriptor that is no class descriptor. -/
  | notClassDescriptor (descriptor : Text)
  /-- The members of a class without members were asked for. -/
  | noClassData
  /-- The separator of test identifiers is empty, in the configuration file `path?` if given. -/
  | emptySeparator (path? : Option Text)
  /-- A number in the name of an archive entry, or in a configuration, has more digits than can be
  read. -/
  | numberTooLong (digits : Nat)
  | noSuchFile (path : Text)
  | isDirectory (path : Text)
  | notDirectory (path : Text)
  /-- A directory was to be made where there is a file. -/
  | fileExists (path : Text)
  /-- A name in a path is longer than any file's. -/
  | nameTooLong (path : Text)
  /-- A path holds the code point zero, with which no file's name is written. -/
  | zeroInPath
  | noConfiguration (path : Text)
  /-- An archive entry lies before the beginning of its archive, or behind where a file can end. -/
  | entryOutOfFile
  /-- The place of an archive entry is not even a number that could be asked for. -/
  | entryOutOfReach
  /-- The name of an archive entry is not in the encoding that it declares. -/
  | entryNameEncoding
  | encryptedEntry
  /-- An archive entry asks for a format version, a compression method or a kind of data that
  is not supported. -/
  | unsupportedEntry
  /-- The archive ends before the data of one of its entries do. -/
  | entryCutOff
  /-- The data of an archive entry should be compressed with bzip2 and are not. -/
  | entryNotBzip2
  /-- The data of an archive entry should be compressed with LZMA and are not. -/
  | entryNotLzma
  /-- A discovery result with an empty separator or a negative duration. -/
  | invalidResult
  /-- A configuration file that is not well formed. -/
  | invalidConfiguration
  /-- A configuration file whose values are nested too deeply. -/
  | nestedTooDeeply
  /-- A section of a configuration that is not a table. -/
  | sectionNotTable
  /-- A value of a configuration that cannot be what the key stands for. -/
  | unusableSetting (key : Text)
  /-- A text with a surrogate was to be written to a file, or to lead to one. -/
  | unencodable
  /-- The threshold of a log was chosen by the name of a layout. -/
  | unknownLevel (layout : Text)
  /-- A part of a call, given by its name, is not of a kind that could be used. -/
  | unusableField (name : Text)
  /-- A log field would replace a part of the record itself. -/
  | reservedField (name : Text)
  /-- A tag in a text that is shown closes what is not open. -/
  | nothingToClose
deriving DecidableEq, Repr

namespace Failure

/-- An unreadable image, as a failure. -/
def ofDex (error : DexError) : Failure :=
  malformed (.image error)

/-- The message of a failure; those without one are told by their kind alone. -/
def message? : Failure → Option Text
  | malformed fault => some fault.message
  | notClassDescriptor descriptor =>
    some ("not a class descriptor: " ++ Text.quoted descriptor)
  | noClassData => some "class has no class_data_item"
  | emptySeparator none => some "separator must not be empty"
  | emptySeparator (some path) => some (path ++ ": [sift] separator must not be empty")
  | numberTooLong digits =>
    some ("Exceeds the limit (4300 digits) for integer string conversion: value has "
      ++ Text.ofNat digits
      ++ " digits; use sys.set_int_max_str_digits() to increase the limit")
  | noSuchFile path => some ("[Errno 2] No such file or directory: " ++ Text.quoted path)
  | isDirectory path => some ("[Errno 21] Is a directory: " ++ Text.quoted path)
  | notDirectory path => some ("[Errno 20] Not a directory: " ++ Text.quoted path)
  | fileExists path => some ("[Errno 17] File exists: " ++ Text.quoted path)
  | nameTooLong path => some ("[Errno 36] File name too long: " ++ Text.quoted path)
  | zeroInPath => some "embedded null byte"
  | noConfiguration path => some ("Configuration file not found: " ++ path)
  | entryOutOfFile => some "[Errno 22] Invalid argument"
  | entryOutOfReach => some "cannot fit 'int' into an offset-sized integer"
  | entryNotBzip2 => some "Invalid data stream"
  | unknownLevel layout => some ("Unknown level: " ++ Text.quoted layout)
  | reservedField name =>
    some (Text.quoted ("Attempt to overwrite " ++ Text.quoted name ++ " in LogRecord"))
  | entryNameEncoding | encryptedEntry | unsupportedEntry | entryCutOff | entryNotLzma
  | invalidResult | invalidConfiguration | nestedTooDeeply | sectionNotTable | unusableSetting _
  | unencodable | unusableField _ | nothingToClose => none

end Failure

end DexDiscovery
