/-
This file says which hosts are reached without a proxy.
-/
import FeedCache.Host.Basic
import FeedCache.Text.Blank

namespace FeedCache.Http

/-- An address as its length in bits and its number. -/
structure Address where
  width : Nat
  number : Nat
  deriving DecidableEq

def Address.ofHost : Host → Option Address
  | .fourBytes address => some ⟨32, address.toNat⟩
  | .eightPieces address =>
      some ⟨128, address.toList.foldl (fun number piece => number * 0x10000 + piece.toNat) 0⟩
  | .name _ => none

/-- An address is written with four decimal bytes or with eight pieces. -/
def Address.read? (text : List Char) : Option Address :=
  match (Text.pieces (· == '.') text).mapM Host.readByte with
  | some [first, second, third, fourth] =>
      some ⟨32, ((first * 256 + second) * 256 + third) * 256 + fourth⟩
  | _ => (Host.readEightPieces text).bind fun address => ofHost (.eightPieces address)

/-- Hosts that are reached directly: all names, the addresses whose first bits are those of a
network, or a name with all names below it. -/
inductive Exemption where
  | everyName
  | network (address : Address) (bits : Nat)
  | domain (name : List Char)
  deriving DecidableEq

/-- The length of a network is written in decimal without leading zeros. -/
def readLength? (width : Nat) (digits : List Char) : Option Nat :=
  (Host.readByte digits).filter (· ≤ width)

def readNetwork? (text : List Char) : Option Exemption := do
  let address ← Address.read? (text.takeWhile (· != '/'))
  match text.dropWhile (· != '/') with
  | [] => some (.network address address.width)
  | _ :: digits => (readLength? address.width digits).map (.network address)

def Exemption.read? (text : List Char) : Option Exemption :=
  let trimmed := Text.trim text
  if trimmed.isEmpty then none
  else if trimmed = ['*'] then some .everyName
  else some ((readNetwork? trimmed).getD (.domain (trimmed.map Char.toLower)))

/-- The exemptions stand between commas. -/
def readExemptions (text : String) : List Exemption :=
  (Text.pieces (· == ',') text.toList).filterMap Exemption.read?

/-- A name is below another one if it ends in it after a dot. -/
def isWithin (parent name : List Char) : Bool :=
  let bare := if parent.head? = some '.' then parent.drop 1 else parent
  name == bare || ('.' :: bare).isSuffixOf name

def Exemption.covers (exemption : Exemption) (host : Host) : Bool :=
  match exemption, host with
  | .everyName, .name _ => true
  | .domain parent, .name labels => isWithin parent (labels.map Char.toLower)
  | .network start bits, host =>
      match Address.ofHost host with
      | some address => address.width == start.width &&
          address.number >>> (address.width - bits) == start.number >>> (address.width - bits)
      | none => false
  | _, _ => false

end FeedCache.Http
