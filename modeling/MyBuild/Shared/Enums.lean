import Mathlib.Data.Nat.Notation

/-!
# The enumerations of the domain

The values the tables and the requests share, with the texts the interface and the
notifications show for them.
-/

namespace MyBuild

inductive Role where
  | client
  | company
  deriving DecidableEq, Repr

inductive OrderCategory where
  | planCreation
  | planImplementation
  deriving DecidableEq, Repr

inductive ObjectType where
  | apartment
  | house
  | commercial
  | government
  deriving DecidableEq, Repr

/-- The status of an order, which is the state of the state machine. -/
inductive OrderStatus where
  | waiting
  | awaitingConfirmation
  | inProgress
  | awaitingCompletionConfirmation
  | completed
  | completionDisputed
  deriving DecidableEq, Repr

inductive OfferStatus where
  | sent
  | accepted
  | rejected
  | notAccepted
  | withdrawn
  | workSubmitted
  | completed
  | backForOverride
  deriving DecidableEq, Repr

inductive FileOwnerType where
  | client
  | company
  deriving DecidableEq, Repr

inductive NotificationType where
  | offerReceived
  | offerAccepted
  | offerRejected
  | offerNotAccepted
  | offerWithdrawn
  | workSubmitted
  | workConfirmed
  | workDisputed
  | filesUpdated
  | areaVerified
  | orderDeleted
  deriving DecidableEq, Repr

/-- The events that move an order from status to status. -/
inductive OrderEventType where
  | offerSubmitted
  | offerWithdrawn
  | offerRejected
  | offerAccepted
  | workSubmitted
  | workConfirmed
  | workDisputed
  deriving DecidableEq, Repr

def offerStatusLabels : OfferStatus → String
  | .sent => "Предложение отправлено"
  | .accepted => "Предложение принято"
  | .rejected => "Предложение отклонено"
  | .notAccepted => "Не выбрано"
  | .withdrawn => "Предложение отозвано"
  | .workSubmitted => "Работа сдана, ждёт подтверждения"
  | .completed => "Предложение завершено"
  | .backForOverride => "Возвращено на доработку"

def orderEventLabels : OrderEventType → String
  | .offerSubmitted => "Отправка предложения"
  | .offerWithdrawn => "Отзыв предложения"
  | .offerRejected => "Отклонение предложения"
  | .offerAccepted => "Принятие предложения"
  | .workSubmitted => "Сдача работы"
  | .workConfirmed => "Подтверждение выполнения"
  | .workDisputed => "Отправка на доработку"

def notificationTypeLabels : NotificationType → String
  | .offerReceived => "Новое предложение"
  | .offerAccepted => "Предложение принято"
  | .offerRejected => "Предложение отклонено"
  | .offerNotAccepted => "Предложение не выбрано"
  | .offerWithdrawn => "Предложение отозвано"
  | .workSubmitted => "Работа сдана"
  | .workConfirmed => "Работа принята"
  | .workDisputed => "Работа отправлена на доработку"
  | .filesUpdated => "Обновлены файлы заказа"
  | .areaVerified => "Уточнена площадь"
  | .orderDeleted => "Заказ удалён"

def formatOrderNumber (orderNumber : ℕ) : String :=
  "ORD-" ++ toString orderNumber

end MyBuild
