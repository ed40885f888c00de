import Mathlib.Logic.Function.Basic
import MyBuild.Orders.Tables

/-!
# Storage quotas

How much room files may take in an order, for a client and in the whole service, and the
room promised to uploads that are still on their way.  Room is counted by the rows of
`OrderFile`.
-/

namespace MyBuild

def megabyte : ℕ := 1024 * 1024

def maxOrderFilesBytes : ℕ := 50 * 1024 * 1024

def uploadRequestOverheadBytes : ℕ := 1024 * 1024

def maxClientFilesBytes : ℕ := 150 * megabyte

def maxTotalFilesBytes : ℕ := 800 * megabyte

structure StorageUsage where
  order : ℕ
  client : ℕ
  total : ℕ
  deriving DecidableEq, Repr

inductive QuotaScope where
  | order
  | client
  | total
  deriving DecidableEq, Repr

structure QuotaRefusal where
  scope : QuotaScope
  message : String
  deriving DecidableEq

/-- The digits of a number in groups of three, with a no-break space between them. -/
def groupThousands (digits : List Char) : List Char :=
  if digits.length ≤ 3 then digits
  else groupThousands (digits.take (digits.length - 3)) ++
    '\u00A0' :: digits.drop (digits.length - 3)
termination_by digits.length
decreasing_by simp only [List.length_take]; omega

/-- Bytes as megabytes in the text of a refusal: `14,5`, one decimal place at most. -/
def toMegabytes (bytes : ℕ) : String :=
  let tenths := (20 * bytes + megabyte) / (2 * megabyte)
  String.ofList (groupThousands (Nat.toDigits 10 (tenths / 10)) ++
    if tenths % 10 = 0 then [] else [',', Nat.digitChar (tenths % 10)])

/-- Whether new files fit; the bounds are checked from the narrow one to the wide one. -/
def checkStorageQuota (usage : StorageUsage) (incoming : ℕ) (uploader : FileOwnerType) :
    Option QuotaRefusal :=
  if maxOrderFilesBytes < usage.order + incoming then
    some {
      scope := .order
      message := "Файлы заказа не помещаются в " ++ toMegabytes maxOrderFilesBytes ++ " МБ: " ++
        "занято " ++ toMegabytes usage.order ++ " МБ, добавляется " ++ toMegabytes incoming ++
        " МБ" }
  else if maxClientFilesBytes < usage.client + incoming then
    some {
      scope := .client
      message := (match uploader with
          | .client => "Место под файлы ваших заказов закончилось"
          | .company => "У заказчика закончилось место под файлы заказов") ++
        ": занято " ++ toMegabytes usage.client ++ " из " ++
        toMegabytes maxClientFilesBytes ++ " МБ, добавляется " ++ toMegabytes incoming ++ " МБ" }
  else if maxTotalFilesBytes < usage.total + incoming then
    some {
      scope := .total
      message := "Хранилище файлов сервиса заполнено. Попробуйте позже" }
  else none

theorem checkStorageQuota_eq_none_iff {usage : StorageUsage} {incoming : ℕ}
    {uploader : FileOwnerType} :
    checkStorageQuota usage incoming uploader = none ↔
      usage.order + incoming ≤ maxOrderFilesBytes ∧
        usage.client + incoming ≤ maxClientFilesBytes ∧
        usage.total + incoming ≤ maxTotalFilesBytes := by
  simp only [checkStorageQuota]
  split
  · simp only [reduceCtorEq, false_iff]
    omega
  split
  · simp only [reduceCtorEq, false_iff]
    omega
  split
  · simp only [reduceCtorEq, false_iff]
    omega
  · simp only [true_iff]
    omega

def addUsage (a b : StorageUsage) : StorageUsage :=
  { order := a.order + b.order, client := a.client + b.client, total := a.total + b.total }

/-- Add to an entry; one that reaches zero is dropped. -/
def adjust (entries : Uuid → ℕ) (key : Uuid) (delta : ℤ) : Uuid → ℕ :=
  Function.update entries key (entries key + delta).toNat

/-- Room promised to uploads on their way, by the three bounds. -/
structure StorageReservations where
  byOrder : Uuid → ℕ
  byClient : Uuid → ℕ
  total : ℕ

namespace StorageReservations

def empty : StorageReservations :=
  { byOrder := fun _ => 0, byClient := fun _ => 0, total := 0 }

def pending (reservations : StorageReservations) (orderId clientId : Uuid) : StorageUsage :=
  { order := reservations.byOrder orderId
    client := reservations.byClient clientId
    total := reservations.total }

def reserve (reservations : StorageReservations) (orderId clientId : Uuid) (bytes : ℕ) :
    StorageReservations :=
  { byOrder := adjust reservations.byOrder orderId bytes
    byClient := adjust reservations.byClient clientId bytes
    total := reservations.total + bytes }

/-- What the function returned by `reserve` does, the one time it is called. -/
def release (reservations : StorageReservations) (orderId clientId : Uuid) (bytes : ℕ) :
    StorageReservations :=
  { byOrder := adjust reservations.byOrder orderId (-bytes)
    byClient := adjust reservations.byClient clientId (-bytes)
    total := reservations.total - bytes }

end StorageReservations

theorem adjust_add (entries : Uuid → ℕ) (key other : Uuid) (bytes : ℕ) :
    adjust entries key bytes other = entries other + if key = other then bytes else 0 := by
  by_cases same : key = other
  · subst same
    simp only [adjust, Function.update_self, if_true]
    omega
  · simp [adjust, same, Ne.symm same]

theorem adjust_sub (entries : Uuid → ℕ) (key other : Uuid) (bytes : ℕ) :
    adjust entries key (-bytes) other = entries other - if key = other then bytes else 0 := by
  by_cases same : key = other
  · subst same
    simp only [adjust, Function.update_self, if_true]
    omega
  · simp [adjust, same, Ne.symm same]

def refuseOverQuota (refusal : Option QuotaRefusal) : Except ApiException Unit :=
  match refusal with
  | none => .ok ()
  | some refusal =>
      match refusal.scope with
      | .total => .error (.insufficientStorage refusal.message)
      | _ => .error (.badRequest refusal.message)

theorem refuseOverQuota_eq_ok_iff {refusal : Option QuotaRefusal} :
    refuseOverQuota refusal = .ok () ↔ refusal = none := by
  simp only [refuseOverQuota]
  split
  · simp
  · split <;> simp

end MyBuild
