/-!
# Digests of texts

The digest of a text is a word of 64 bits that takes in the bytes of the text one by one: each is
combined bit by bit with the word, which is then multiplied by a prime. So a digest does not see how
a text was joined from others.
-/

namespace ExpenseLedger.Text

/-- The digest of the text without bytes. -/
def emptyDigest : UInt64 := 0xcbf29ce484222325

/-- The prime by which each byte spreads over the word. -/
def digestPrime : UInt64 := 0x100000001b3

/-- Takes one more byte into a digest. -/
def absorb (digest : UInt64) (byte : UInt8) : UInt64 := (digest ^^^ byte.toUInt64) * digestPrime

/-- Takes one more character into a digest. -/
def absorbChar (digest : UInt64) (c : Char) : UInt64 :=
  (String.utf8EncodeChar c).foldl absorb digest

/-- The digest of a text. -/
def digest (cs : List Char) : UInt64 := cs.foldl absorbChar emptyDigest

end ExpenseLedger.Text
