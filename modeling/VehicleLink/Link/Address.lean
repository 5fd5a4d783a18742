/-!
IP addresses and their texts. Four decimal octets are written without leading zeros. Eight groups
of up to four hexadecimal digits may end in an address of the first kind in place of two groups, and
one gap of two colons stands for the groups that are missing, of which there is at least one.
-/

namespace VehicleLink

inductive Address where
  | v4 (octets : List UInt8)
  | v6 (groups : List UInt16)
  deriving DecidableEq, Repr

namespace Address

/-- The pieces of a text between separators. -/
def pieces (separator : Char) : List Char → List (List Char)
  | [] => [[]]
  | c :: rest =>
      if c = separator then [] :: pieces separator rest
      else
        match pieces separator rest with
        | piece :: more => (c :: piece) :: more
        | [] => [[c]]

/-- The parts of a text before and after its first two colons in a row. -/
def atGap : List Char → Option (List Char × List Char)
  | ':' :: ':' :: rest => some ([], rest)
  | c :: rest => (atGap rest).map fun (before, after) => (c :: before, after)
  | [] => none

def digit? (c : Char) : Option Nat :=
  if '0' ≤ c ∧ c ≤ '9' then some (c.toNat - '0'.toNat) else none

def hexDigit? (c : Char) : Option Nat :=
  if 'a' ≤ c ∧ c ≤ 'f' then some (c.toNat - 'a'.toNat + 10)
  else if 'A' ≤ c ∧ c ≤ 'F' then some (c.toNat - 'A'.toNat + 10)
  else digit? c

/-- The number of a run of digits, of which there is at least one. -/
def number? (base : Nat) (digit? : Char → Option Nat) (text : List Char) : Option Nat :=
  if text.isEmpty then none
  else text.foldlM (fun n c => (digit? c).map (n * base + ·)) 0

def octet? (text : List Char) : Option UInt8 :=
  match text with
  | '0' :: _ :: _ => none
  | _ =>
      if 3 < text.length then none
      else (number? 10 digit? text).bind fun n => if n ≤ 255 then some (UInt8.ofNat n) else none

def octets? (text : List Char) : Option (List UInt8) :=
  match pieces '.' text with
  | [a, b, c, d] => [a, b, c, d].mapM octet?
  | _ => none

def group? (text : List Char) : Option UInt16 :=
  if 4 < text.length then none else (number? 16 hexDigit? text).map UInt16.ofNat

/-- Two octets as one group. -/
def pair (high low : UInt8) : UInt16 := UInt16.ofNat (high.toNat * 256 + low.toNat)

/-- Groups, of which the last two may be written as octets where that is allowed. -/
def groupsOf (octetsAllowed : Bool) : List (List Char) → Option (List UInt16)
  | [] => some []
  | [last] =>
      match if octetsAllowed then octets? last else none with
      | some [a, b, c, d] => some [pair a b, pair c d]
      | _ => (group? last).map ([·])
  | piece :: rest => do return (← group? piece) :: (← groupsOf octetsAllowed rest)

/-- The groups on one side of a gap, where there may be none. -/
def side (octetsAllowed : Bool) (text : List Char) : Option (List UInt16) :=
  if text.isEmpty then some [] else groupsOf octetsAllowed (pieces ':' text)

def groups? (text : List Char) : Option (List UInt16) :=
  match atGap text with
  | none => (groupsOf true (pieces ':' text)).filter (·.length = 8)
  | some (before, after) => do
      let head ← side false before
      let tail ← side true after
      if head.length + tail.length ≤ 7 then
        return head ++ List.replicate (8 - head.length - tail.length) 0 ++ tail
      else none

def parse? (text : String) : Option Address :=
  match octets? text.toList with
  | some octets => some (v4 octets)
  | none => (groups? text.toList).map v6

/-! ### Kinds -/

/-- Whether an address is four octets or stands for them. -/
def isOctets : Address → Bool
  | v4 _ => true
  | v6 groups => groups.take 6 = [0, 0, 0, 0, 0, 0xffff]

/-- Whether an address means something on one interface only: one of the link itself, or that of a
group within the interface or the link. -/
def needsInterface : Address → Bool
  | v4 _ | v6 [] => false
  | v6 (first :: _) => first &&& 0xffc0 = 0xfe80 || [0xff01, 0xff02].contains (first &&& 0xff0f)

/-! ### Writing -/

def octetsText (octets : List UInt8) : String :=
  ".".intercalate (octets.map fun octet => toString octet.toNat)

def groupsText (groups : List UInt16) : String :=
  ":".intercalate (groups.map fun group => String.ofList (Nat.toDigits 16 group.toNat))

/-- The number of zeros at the start. -/
def zeros (groups : List UInt16) : Nat := (groups.takeWhile (· = 0)).length

/-- The first of the longest runs of zeros: where it starts and how long it is. -/
def longestGap (groups : List UInt16) : Nat × Nat :=
  (List.range groups.length).foldl
    (fun best start =>
      let run := zeros (groups.drop start)
      if best.2 < run then (start, run) else best) (0, 0)

/-- The usual text: the longest run of at least two zero groups becomes a gap, and addresses that
stand for octets end in them. -/
def text : Address → String
  | v4 octets => octetsText octets
  | v6 [0, 0, 0, 0, 0, 0xffff, high, low] =>
      "::ffff:" ++ octetsText [(high / 256).toUInt8, high.toUInt8, (low / 256).toUInt8, low.toUInt8]
  | v6 groups =>
      let (start, length) := longestGap groups
      if length < 2 then groupsText groups
      else groupsText (groups.take start) ++ "::" ++ groupsText (groups.drop (start + length))

/-- The text of an address with what follows as its port. -/
def withPort (address : Address) (port : String) : String :=
  match address with
  | v4 _ => s!"{address.text}:{port}"
  | v6 _ => s!"[{address.text}]:{port}"

end Address

end VehicleLink
