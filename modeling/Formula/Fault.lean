import Formula.Text.Quoted

/-!
Faults of single operations on values: a number out of range, a date that does not exist, an
argument of the wrong kind. A fault knows its class and its wording; which formula caused it is the
evaluator's business.
-/

namespace Formula

/-- The classes of faults. Operators turn value, overflow and division faults into errors of the
formula, function calls all four. -/
inductive FaultKind where
  | type
  | value
  | overflow
  | zeroDivision
deriving DecidableEq, Repr

/-- The parts of a date and a time that have a range of their own. -/
inductive ClockPart where
  | month
  | hour
  | minute
  | second
  | microsecond
deriving DecidableEq, Repr

def ClockPart.rangeText : ClockPart → String
  | .month => "month must be in 1..12"
  | .hour => "hour must be in 0..23"
  | .minute => "minute must be in 0..59"
  | .second => "second must be in 0..59"
  | .microsecond => "microsecond must be in 0..999999"

/-- An integer of more decimal digits than this is neither read from text nor written as text. -/
def maxIntegerDigits : Nat := 4300

/-- What can go wrong in one operation. -/
inductive Fault where
  -- numbers
  | notFinite
  | integerTooLarge
  | integerTooLargeForFloat
  | quotientTooLarge
  | infinityToInteger
  | nanToInteger
  | zeroToNegativePower
  | powerOverflow
  | complexOverflow
  | notReal
  | negativeRoot
  | divisionByZero
  | notOrdered
  | decimalOutOfReach
  -- texts of numbers
  | digitsToWrite
  | digitsToRead (count : Nat)
  | invalidInteger (text : Text)
  | invalidFloat (text : Text)
  -- dates
  | invalidDateText (text : Text)
  | notADate (type : String)
  | yearRange (year : Int)
  | dayRange
  | partRange (part : ClockPart)
  | offsetRange (text : String)
  | dateRange
  | tooManyDays (days : Int)
  | beyondInt
  | beyondLong
  | aboveSignedInt
  | belowSignedInt
  | mixedSubtraction
  | mixedComparison
  | unknownUnit (unit : Text)
  -- arguments
  | notWhole (name value : String)
  | negativeCount
  | startTooSmall
  | columnTooSmall
  | oddPairs
  | unknownDataset (name : Text)
  | expectedNumbers (type : String)
  | cannotSort (types : String)
  | cannotConvert (type : String)
  /-- A fault that a registered function reports in its own words. -/
  | reported (kind : FaultKind) (message : String)

def Fault.kind : Fault → FaultKind
  | .notFinite | .integerTooLarge | .integerTooLargeForFloat | .quotientTooLarge
  | .infinityToInteger | .powerOverflow | .complexOverflow | .dateRange | .tooManyDays _
  | .beyondInt | .beyondLong | .aboveSignedInt | .belowSignedInt | .decimalOutOfReach => .overflow
  | .zeroToNegativePower | .divisionByZero => .zeroDivision
  | .notOrdered | .mixedSubtraction | .mixedComparison | .expectedNumbers _ | .cannotSort _
  | .cannotConvert _ => .type
  | .reported kind _ => kind
  | _ => .value

def digitLimitText : String :=
  s!"Exceeds the limit ({maxIntegerDigits} digits) for integer string conversion"

def digitLimitAdvice : String := "use sys.set_int_max_str_digits() to increase the limit"

/-- A quoted text that is cut after two hundred characters. -/
def shortQuote (text : Text) : String := String.ofList ((Text.quote text).toList.take 200)

def Fault.message : Fault → Text
  | .notFinite => "result is not a finite number"
  | .integerTooLarge => "integer result is too large"
  | .integerTooLargeForFloat => "int too large to convert to float"
  | .quotientTooLarge => "integer division result too large for a float"
  | .infinityToInteger => "cannot convert float infinity to integer"
  | .nanToInteger => "cannot convert float NaN to integer"
  | .zeroToNegativePower => "0.0 cannot be raised to a negative power"
  | .powerOverflow => "(34, 'Numerical result out of range')"
  | .complexOverflow => "complex exponentiation"
  | .notReal => "result is not a real number"
  | .negativeRoot => "cannot take the square root of a negative number"
  | .divisionByZero => "division by zero"
  | .notOrdered => "'>=' not supported between instances of 'str' and 'int'"
  | .decimalOutOfReach => "[<class 'decimal.InvalidOperation'>]"
  | .digitsToWrite => s!"{digitLimitText}; {digitLimitAdvice}"
  | .digitsToRead count => s!"{digitLimitText}: value has {count} digits; {digitLimitAdvice}"
  | .invalidInteger text => s!"invalid literal for int() with base 10: {shortQuote text}"
  | .invalidFloat text => s!"could not convert string to float: {Text.quote text}"
  | .invalidDateText text => s!"Invalid isoformat string: {Text.quote text}"
  | .notADate type => s!"Expected a date, got {type}"
  | .yearRange year => s!"year {year} is out of range"
  | .dayRange => "day is out of range for month"
  | .partRange part => part.rangeText
  | .offsetRange text =>
      "offset must be a timedelta strictly between -timedelta(hours=24) and " ++
        s!"timedelta(hours=24), not {text}."
  | .dateRange => "date value out of range"
  | .tooManyDays days => s!"days={days}; must have magnitude <= 999999999"
  | .beyondInt => "Python int too large to convert to C int"
  | .beyondLong => "Python int too large to convert to C long"
  | .aboveSignedInt => "signed integer is greater than maximum"
  | .belowSignedInt => "signed integer is less than minimum"
  | .mixedSubtraction => "can't subtract offset-naive and offset-aware datetimes"
  | .mixedComparison => "can't compare offset-naive and offset-aware datetimes"
  | .unknownUnit unit => Text.ofString "unknown date unit '" ++ unit ++ "'"
  | .notWhole name value => s!"{name} must be a whole number, got {value}"
  | .negativeCount => "count must not be negative"
  | .startTooSmall => "start must be 1 or greater"
  | .columnTooSmall => "column must be 1 or greater"
  | .oddPairs => "expects condition/value pairs"
  | .unknownDataset name => Text.ofString "unknown dataset '" ++ name ++ "'"
  | .expectedNumbers type => s!"expected numbers, got {type}"
  | .cannotSort types => s!"cannot sort values of type {types}"
  | .cannotConvert type => s!"cannot convert {type} to a number"
  | .reported _ message => message

end Formula
