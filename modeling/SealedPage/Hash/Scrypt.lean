import SealedPage.Hash.Mac

/-!
# scrypt

The key derivation of RFC 7914, which needs much memory: a table of states is filled one after the
other, and then read at places that depend on the passphrase. `scrypt?` refuses costs that make no
sense or would need too much memory.
-/

namespace SealedPage.Hash.Scrypt

/-- Mixes the sum of two words, rotated, into the word at place `i`. -/
def mixInto (x : Array UInt32) (i j k : Nat) (n : UInt32) : Array UInt32 :=
  x.setIfInBounds i (x.getD i 0 ^^^ rotateLeft (x.getD j 0 + x.getD k 0) n)

/-- Mixes four words of a block of sixteen. -/
def quarter (x : Array UInt32) (a b c d : Nat) : Array UInt32 :=
  let x := mixInto x b a d 7
  let x := mixInto x c b a 9
  let x := mixInto x d c b 13
  mixInto x a d c 18

/-- Mixes the four columns of a block and then its four rows. -/
def doubleRound (x : Array UInt32) : Array UInt32 :=
  let x := quarter (quarter (quarter (quarter x 0 4 8 12) 5 9 13 1) 10 14 2 6) 15 3 7 11
  quarter (quarter (quarter (quarter x 0 1 2 3) 5 6 7 4) 10 11 8 9) 15 12 13 14

/-- The words of two blocks combined. -/
def combine (f : UInt32 → UInt32 → UInt32) (x y : Array UInt32) : Array UInt32 :=
  x.zipWith f y

/-- Salsa20/8 of a block of sixteen words. -/
def salsa (x : Array UInt32) : Array UInt32 :=
  combine (· + ·) x (doubleRound (doubleRound (doubleRound (doubleRound x))))

/-- Mixes the blocks of a state one after the other into `x`, from block `i` on; the results at
even and at odd places are kept apart. -/
def mixFrom (state : Array UInt32) : (count i : Nat) → (x evens odds : Array UInt32) → Array UInt32
  | 0, _, _, evens, odds => evens ++ odds
  | count + 1, i, x, evens, odds =>
    let x := salsa (combine (· ^^^ ·) x (state.extract (16 * i) (16 * (i + 1))))
    if i % 2 = 0 then mixFrom state count (i + 1) x (evens ++ x) odds
    else mixFrom state count (i + 1) x evens (odds ++ x)

/-- Mixes a state of `2 * r` blocks. -/
def mixState (r : Nat) (state : Array UInt32) : Array UInt32 :=
  mixFrom state (2 * r) 0 (state.extract (16 * (2 * r - 1)) (16 * (2 * r))) #[] #[]

/-- Fills the table with `count` more states. -/
def fill (r : Nat) : (count : Nat) → Array (Array UInt32) → Array UInt32 →
    Array (Array UInt32) × Array UInt32
  | 0, table, state => (table, state)
  | count + 1, table, state => fill r count (table.push state) (mixState r state)

/-- The place in the table that a state points to: its last block begins with the number. -/
def place (r : Nat) (table : Array (Array UInt32)) (state : Array UInt32) : Nat :=
  let i := 16 * (2 * r - 1)
  (((state.getD (i + 1) 0).toNat <<< 32) + (state.getD i 0).toNat) % table.size

/-- Mixes `count` more states of the table in. -/
def lookUp (r : Nat) (table : Array (Array UInt32)) : (count : Nat) → Array UInt32 → Array UInt32
  | 0, state => state
  | count + 1, state =>
    let found := table.getD (place r table state) #[]
    lookUp r table count (mixState r (combine (· ^^^ ·) state found))

/-- The words of bytes, the lowest byte first. -/
def wordsFrom (done : Array UInt32) : Bytes → Array UInt32
  | a :: b :: c :: d :: rest => wordsFrom (done.push (lowWord a b c d)) rest
  | _ => done

/-- Mixes the bytes of a state, with a table of `cost` states. -/
def mix (cost r : Nat) (bytes : Bytes) : Bytes :=
  let (table, state) := fill r cost #[] (wordsFrom #[] bytes)
  (lookUp r table cost state).toList.flatMap lowBytes

/-- Whether costs are taken: the size of the table is a power of two, and the memory has bounds. -/
def isCost (cost r p : Nat) : Bool :=
  2 ≤ cost && cost == 1 <<< cost.log2 && 1 ≤ r && 1 ≤ p && r * p < 1 <<< 30 &&
    128 * r * p < 1 <<< 31 && (4 ≤ r || cost < 1 <<< (16 * r)) &&
    128 * r * (cost + 2 + p) < 1 <<< 63

/-- A key of the given length. -/
def scrypt? (passphrase salt : Bytes) (cost r p length : Nat) : Option Bytes :=
  if isCost cost r p then
    let states := sha256.pbkdf2 passphrase salt 1 (p * 128 * r)
    let mixed := (List.range p).flatMap fun i =>
      mix cost r ((states.drop (i * 128 * r)).take (128 * r))
    some (sha256.pbkdf2 passphrase mixed 1 length)
  else none

end SealedPage.Hash.Scrypt
