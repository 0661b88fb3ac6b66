/-!
# Words

The integers that fit 64 bits, with a sign or without one.
-/

namespace LuceneQuery.Word

set_option autoImplicit false

def least : Int := -9223372036854775808

def greatest : Int := 9223372036854775807

def greatestUnsigned : Int := 18446744073709551615

def isSigned (value : Int) : Bool := least ≤ value && value ≤ greatest

def isUnsigned (value : Int) : Bool := 0 ≤ value && value ≤ greatestUnsigned

end LuceneQuery.Word
