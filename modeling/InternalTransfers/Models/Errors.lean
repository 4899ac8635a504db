import Mathlib.Data.List.Infix

/-! # Domain errors and their text

`models.DomainError` and the errors the repositories build with `fmt.Errorf`. Every error
is kept as the value the code builds, and `GoError.error` is its `Error()` text, since both
`IsRetryable` and `isDuplicateKeyError` decide by scanning that text.
-/
namespace InternalTransfers

/-- `models.ErrorCode`. -/
inductive ErrorCode
  | accountNotFound | insufficientBalance | invalidAmount | currencyMismatch | sameAccount
  | transferNotFound | accountAlreadyExists | duplicateTransaction | databaseError
  | transactionFailed | internalError
  deriving DecidableEq, Repr

def ErrorCode.text : ErrorCode → String
  | .accountNotFound => "account_not_found"
  | .insufficientBalance => "insufficient_balance"
  | .invalidAmount => "invalid_amount"
  | .currencyMismatch => "currency_mismatch"
  | .sameAccount => "same_account"
  | .transferNotFound => "transaction_not_found"
  | .accountAlreadyExists => "account_exists"
  | .duplicateTransaction => "duplicate_transaction"
  | .databaseError => "database_error"
  | .transactionFailed => "transaction_failed"
  | .internalError => "internal_error"

/-- A non-nil Go `error`: a `*DomainError`, a `fmt.Errorf` wrapping with `%w`, or one known only by its text. -/
inductive GoError
  | domain (code : ErrorCode) (message : String)
  | wrapDomain (code : ErrorCode) (message : String) (cause : GoError)
  | wrapped (context : String) (cause : GoError)
  | text (message : String)
  deriving DecidableEq, Repr

/-- `Error()` of each kind of error. -/
def GoError.error : GoError → String
  | .domain c m => c.text ++ ": " ++ m
  | .wrapDomain c m e => c.text ++ ": " ++ m ++ ": " ++ e.error
  | .wrapped ctx e => ctx ++ ": " ++ e.error
  | .text m => m

/-- `models.WrapError`; a nil cause gives the same value as `NewDomainError`. -/
def wrapError (code : ErrorCode) (message : String) : Option GoError → GoError
  | none => .domain code message
  | some e => .wrapDomain code message e

def errAccountNotFound : GoError := .domain .accountNotFound "account not found"
def errInsufficientBalance : GoError :=
  .domain .insufficientBalance "insufficient balance for this transaction"
def errInvalidAmount : GoError := .domain .invalidAmount "amount must be a positive decimal value"
def errSameAccount : GoError :=
  .domain .sameAccount "source and destination accounts cannot be the same"
def errAccountAlreadyExists : GoError :=
  .domain .accountAlreadyExists "account with this ID already exists"
def errTransferNotFound : GoError := .domain .transferNotFound "transaction not found"

/-- `unicode.ToLower` on the runes whose lower case is an ASCII letter; no other rune changes a substring test. -/
def goLower (c : Char) : Char :=
  if 'A' ≤ c ∧ c ≤ 'Z' then Char.ofNat (c.toNat + 32)
  else if c = '\u212A' then 'k' else if c = '\u0130' then 'i' else c

/-- `strings.ToLower`. -/
def toLower (s : String) : String := ⟨s.toList.map goLower⟩

def infixOf (p : List Char) : List Char → Bool
  | [] => p.isEmpty
  | c :: cs => p.isPrefixOf (c :: cs) || infixOf p cs

/-- `strings.Contains`; on valid UTF-8 a byte substring is a rune substring. -/
def contains (s substr : String) : Bool := infixOf substr.toList s.toList

def retryPatterns : List String := ["deadlock", "serialize", "connection", "timeout"]

/-- The body of `models.IsRetryable`: a pattern in the lower-cased text. -/
def retryableText (s : String) : Bool :=
  let errStr := toLower s
  retryPatterns.any fun p => contains errStr p

/-- `models.IsRetryable` on a non-nil error. -/
def isRetryable (e : GoError) : Bool := retryableText e.error

/-- `isDuplicateKeyError` of the account service, on a non-nil error. -/
def isDuplicateKeyError (e : GoError) : Bool :=
  contains e.error "duplicate key" || contains e.error "23505"

theorem infixOf_iff (p : List Char) (l : List Char) : infixOf p l = true ↔ p <:+: l := by
  induction l with
  | nil => cases p <;> simp [infixOf]
  | cons c cs ih =>
    simp only [infixOf, Bool.or_eq_true, ih, List.isPrefixOf_iff_prefix]
    exact ⟨fun h => h.elim List.IsPrefix.isInfix (List.IsInfix.trans · (List.suffix_cons c cs).isInfix),
      List.infix_cons_iff.mp⟩

theorem isPrefixOf_append_cons {c : Char} (r : List Char) :
    ∀ {p : List Char} (l : List Char), c ∉ p → p.isPrefixOf (l ++ c :: r) = p.isPrefixOf l
  | [], _, _ => by simp [List.isPrefixOf]
  | x :: xs, [], h => by
    have hx : x ≠ c := fun e => h (e ▸ List.mem_cons_self x xs)
    simp [List.isPrefixOf, hx]
  | x :: xs, y :: ys, h => by
    simp only [List.cons_append, List.isPrefixOf, List.append_eq,
      isPrefixOf_append_cons r ys (fun h' => h (.tail _ h'))]

theorem infixOf_append_cons {p : List Char} {c : Char} (hc : c ∉ p) (hp : p ≠ []) (r : List Char) :
    ∀ l, infixOf p (l ++ c :: r) = (infixOf p l || infixOf p r)
  | [] => by
    have h := isPrefixOf_append_cons r [] hc
    rw [List.nil_append] at h ⊢
    obtain ⟨x, xs, rfl⟩ := List.exists_cons_of_ne_nil hp
    exact congrArg (· || infixOf (x :: xs) r) h
  | x :: l => by
    have h := isPrefixOf_append_cons r (x :: l) hc
    rw [List.cons_append] at h ⊢
    rw [infixOf, h, infixOf_append_cons hc hp r l, infixOf, Bool.or_assoc]

theorem infixOf_sep {p : List Char} (hcolon : ':' ∉ p) (hspace : ' ' ∉ p) (hp : p ≠ []) (l r : List Char) :
    infixOf p (l ++ ':' :: ' ' :: r) = (infixOf p l || infixOf p r) := by
  rw [infixOf_append_cons hcolon hp, show ' ' :: r = [] ++ ' ' :: r from rfl, infixOf_append_cons hspace hp]
  cases p <;> simp_all [infixOf]

theorem retryableText_append (s t : String) :
    retryableText (s ++ ": " ++ t) = (retryableText s || retryableText t) := by
  have h : (toLower (s ++ ": " ++ t)).toList = (toLower s).toList ++ ':' :: ' ' :: (toLower t).toList := by
    simp [toLower, String.toList, String.append, goLower]
  simp only [retryableText, contains, h, retryPatterns, List.any_cons, List.any_nil, Bool.or_false]
  rw [infixOf_sep (by decide) (by decide) (by decide), infixOf_sep (by decide) (by decide) (by decide),
    infixOf_sep (by decide) (by decide) (by decide), infixOf_sep (by decide) (by decide) (by decide)]
  simp only [Bool.or_assoc, Bool.or_comm, Bool.or_left_comm]

@[simp] theorem isRetryable_wrapped (context : String) (e : GoError) :
    isRetryable (.wrapped context e) = (retryableText context || isRetryable e) :=
  retryableText_append context e.error

@[simp] theorem isRetryable_wrapDomain (code : ErrorCode) (message : String) (e : GoError) :
    isRetryable (.wrapDomain code message e) = (retryableText (code.text ++ ": " ++ message) || isRetryable e) :=
  retryableText_append _ e.error

@[simp] theorem isRetryable_errAccountNotFound : isRetryable errAccountNotFound = false := by decide
@[simp] theorem isRetryable_errInsufficientBalance :
    isRetryable errInsufficientBalance = false := by decide

end InternalTransfers
