import DocumentQuery.Text.Bytes

/-!
# The BSON layout

Tags and frames shared by writing and reading. A document is a length of four bytes, its elements
and a zero byte; an element is a tag, a key that ends in a zero byte, and the value.
-/

namespace DocumentQuery.Bson

namespace Tag

def double : UInt8 := 0x01
def string : UInt8 := 0x02
def document : UInt8 := 0x03
def array : UInt8 := 0x04
def binary : UInt8 := 0x05
def undefined : UInt8 := 0x06
def objectId : UInt8 := 0x07
def bool : UInt8 := 0x08
def date : UInt8 := 0x09
def null : UInt8 := 0x0A
def regex : UInt8 := 0x0B
def dbPointer : UInt8 := 0x0C
def code : UInt8 := 0x0D
def symbol : UInt8 := 0x0E
def codeWithScope : UInt8 := 0x0F
def int32 : UInt8 := 0x10
def timestamp : UInt8 := 0x11
def int64 : UInt8 := 0x12
def decimal128 : UInt8 := 0x13
def maxKey : UInt8 := 0x7F
def minKey : UInt8 := 0xFF

end Tag

/-- The binary subtype whose bytes carry a second length. -/
def lengthPrefixed : UInt8 := 0x02

end DocumentQuery.Bson
