import Mathlib.Data.List.Basic

/-!
# RT-Thread mailboxes

A mailbox is a first-in first-out queue of words with a fixed size.  A send to a
full mailbox fails and leaves it alone; a receiver waits while it is empty.
-/

namespace BerPiNbiot.Kernel

variable {Word : Type} {size : Nat}

/-- `struct rt_mailbox` with its queued words. -/
structure Mailbox (Word : Type) (size : Nat) where
  words : List Word
  bounded : words.length ≤ size
  deriving DecidableEq

/-- `rt_mb_create` -/
def rtMbCreate (Word : Type) (size : Nat) : Mailbox Word size where
  words := []
  bounded := Nat.zero_le size

theorem Mailbox.bounded_concat {mailbox : Mailbox Word size} (room : mailbox.words.length < size)
    (word : Word) : (mailbox.words ++ [word]).length ≤ size := by
  rw [List.length_append]
  exact room

/-- `rt_mb_send`; the flag is `RT_EOK`. -/
def rtMbSend (word : Word) (mailbox : Mailbox Word size) : Bool × Mailbox Word size :=
  if room : mailbox.words.length < size then
    (true, { words := mailbox.words ++ [word], bounded := Mailbox.bounded_concat room word })
  else
    (false, mailbox)

/-- `rt_mb_recv`, or `none` while the receiver has to wait. -/
def rtMbRecv (mailbox : Mailbox Word size) : Option (Word × Mailbox Word size) :=
  match mailbox with
  | ⟨[], _⟩ => none
  | ⟨word :: rest, bounded⟩ => some (word, ⟨rest, Nat.le_of_succ_le bounded⟩)

theorem rtMbSend_of_room (word : Word) {mailbox : Mailbox Word size}
    (room : mailbox.words.length < size) :
    (rtMbSend word mailbox).2.words = mailbox.words ++ [word] := by
  rw [rtMbSend, dif_pos room]

theorem rtMbRecv_eq_some {word : Word} {mailbox rest : Mailbox Word size}
    (received : rtMbRecv mailbox = some (word, rest)) : mailbox.words = word :: rest.words := by
  rcases mailbox with ⟨words, bounded⟩
  cases words with
  | nil => contradiction
  | cons first others =>
      cases received
      rfl

end BerPiNbiot.Kernel
