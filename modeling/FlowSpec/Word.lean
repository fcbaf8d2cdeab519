/-! The range of words of 64 bits, which numbers in documents, versions, durations and flags have to
fit. -/

set_option autoImplicit false

namespace FlowSpec.Word

/-- How many words there are; one more than the greatest without a sign. -/
def count : Nat := 18446744073709551616

/-- Half of them are negative; one more than the greatest with a sign. -/
def half : Nat := 9223372036854775808

end FlowSpec.Word
