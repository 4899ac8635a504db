import Mathlib.Data.Rat.Defs
import Mathlib.Algebra.Order.Ring.Rat
import Mathlib.Tactic.NormNum.Basic

/-! # Accounts, transfer records and requests

The decimal amounts of `shopspring/decimal` are exact, so they are rationals here; the
service only parses, compares, adds and subtracts them. The decimal parser itself belongs to
that library, not to the repository, so `parseMoney` takes it as an argument and every
result about the service holds for any parser.
-/
namespace InternalTransfers

/-- `models.Account`, without the timestamps the store fills in and no modelled code reads. -/
structure Account where
  accountID : Int
  balance : ℚ
  deriving DecidableEq, Repr

/-- `models.Transaction`, without `CreatedAt`. -/
structure Transaction where
  transactionID : Int
  sourceAccountID : Int
  destinationAccountID : Int
  amount : ℚ
  deriving DecidableEq, Repr

structure CreateAccountRequest where
  accountID : Int
  initialBalance : String
  deriving DecidableEq, Repr

structure CreateTransactionRequest where
  sourceAccountID : Int
  destinationAccountID : Int
  amount : String
  deriving DecidableEq, Repr

/-- `models.ParseMoney`: the empty string is refused before the library parser sees it. -/
def parseMoney (newFromString : String → Option ℚ) (s : String) : Option ℚ :=
  if s = "" then none else newFromString s

/-- `NewFromString` of the decimal library, which is not in the repository: a sign, digits, at most one point. -/
def decimalOfString (s : String) : Option ℚ :=
  let (neg, body) : Bool × List Char := match s.toList with
    | '-' :: cs => (true, cs)
    | '+' :: cs => (false, cs)
    | cs => (false, cs)
  let whole := body.takeWhile (· ≠ '.')
  let frac := (body.dropWhile (· ≠ '.')).drop 1
  let digits := whole ++ frac
  if digits = [] ∨ !digits.all Char.isDigit ∨ frac.contains '.' then none
  else
    let n : ℚ := digits.foldl (fun n c => 10 * n + (c.toNat - '0'.toNat : ℕ)) 0
    let v := n / 10 ^ frac.length
    some (if neg then -v else v)

theorem parseMoney_100 : parseMoney decimalOfString "100" = some 100 := by
  simp [parseMoney, decimalOfString]
  norm_num

/-- A transfer that passed validation: the only arguments `executeTransfer` is called with. -/
structure TransferArgs where
  sourceID : Int
  destID : Int
  amount : ℚ
  distinct : sourceID ≠ destID
  positive : 0 < amount

/-- Lines 204-208 of `executeTransfer`: the smaller id is locked first. -/
def TransferArgs.firstID (a : TransferArgs) : Int := if a.sourceID > a.destID then a.destID else a.sourceID
def TransferArgs.secondID (a : TransferArgs) : Int := if a.sourceID > a.destID then a.sourceID else a.destID

theorem TransferArgs.firstID_lt_secondID (a : TransferArgs) : a.firstID < a.secondID := by
  have := a.distinct
  unfold firstID secondID
  split <;> omega

end InternalTransfers
