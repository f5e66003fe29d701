import Terminal.Files.Error

namespace Terminal

/-- What goes wrong beneath a command without being meant for the user. -/
inductive Fault where
  | file (e : FileError)
  | tooManyDigits (count : Nat)
  | yearOutOfRange (year : Int)
  | repetitionTooLarge
  | codeTooLarge
  | clashingAlphabets
  | lookBehindTooWide
  | tornGroup
  | tooDeep
  | tooManyLevels
  | quotientTooLarge
  | notFinite
  | clockOutOfRange
  | dateTooLarge
  | negativeCapacity
  | capacityTooLarge
  | other (label text : String)
  deriving DecidableEq, Repr

namespace Fault

def message : Fault → String
  | file e => e.message
  | tooManyDigits count =>
    "Exceeds the limit (4300 digits) for integer string conversion: value has " ++
      toString count ++ " digits; use sys.set_int_max_str_digits() to increase the limit"
  | yearOutOfRange year => "year " ++ toString year ++ " is out of range"
  | repetitionTooLarge => "the repetition number is too large"
  | codeTooLarge => "Python int too large to convert to C int"
  | clashingAlphabets => "ASCII and UNICODE flags are incompatible"
  | lookBehindTooWide => "invalid SRE code"
  | tornGroup => "The span of capturing group is wrong, please report a bug for the re module."
  | tooDeep => "maximum recursion depth exceeded"
  | tooManyLevels => "maximum recursion depth exceeded while calling a Python object"
  | quotientTooLarge => "integer division result too large for a float"
  | notFinite => "cannot convert float infinity to integer"
  | clockOutOfRange => "timestamp out of range for platform time_t"
  | dateTooLarge => "[Errno 75] Value too large for defined data type"
  | negativeCapacity => "maxlen must be non-negative"
  | capacityTooLarge => "Python int too large to convert to C ssize_t"
  | other _ text => text

def label : Fault → String
  | file e => e.kind.label
  | tooManyDigits _ | yearOutOfRange _ | clashingAlphabets | negativeCapacity => "ValueError"
  | repetitionTooLarge | codeTooLarge | quotientTooLarge | notFinite | clockOutOfRange
  | capacityTooLarge => "OverflowError"
  | dateTooLarge => "OSError"
  | lookBehindTooWide => "RuntimeError"
  | tornGroup => "SystemError"
  | tooDeep | tooManyLevels => "RecursionError"
  | other label _ => label

end Fault

/-- How a command can end other than with a result: it was cancelled, it has something to tell the user, or
something beneath it went wrong. -/
inductive Failure where
  | cancelled
  | usage (text : String)
  | notFound (text : String)
  | typeMismatch (text : String)
  | precondition (text : String)
  | refused (text : String)
  | fault (f : Fault)
  deriving DecidableEq, Repr

namespace Failure

def message : Failure → String
  | cancelled => ""
  | usage text => "usage: " ++ text
  | notFound text | typeMismatch text | precondition text | refused text => text
  | fault f => f.message

end Failure

end Terminal
