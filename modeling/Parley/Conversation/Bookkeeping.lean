import Parley.Conversation.Basic

/-!
What a conversation remembers beside its keys: generation, last message, offer, and the data of the
application.
-/

namespace Parley.Conversation

variable {α ρ : Type} (c : Conversation α ρ)

def bumpGeneration : Conversation α ρ :=
  { c with generation := c.generation + 1 }

-- Keeps the last message sent, in case it has to be sent again.
def setLastMessage (message : Array UInt8) (sentAt : UInt64) (mayRetransmit : Bool) :
    Conversation α ρ :=
  { c with
    lastSent := sentAt
    material := { c.material with lastMessage := some message, mayRetransmit := mayRetransmit } }

def setOffer (offer : Offer) : Conversation α ρ :=
  { c with offer := offer }

-- Attaches data; what was attached before is released first.
def attach (data : α) (function : Option ρ) : Reply α ρ Unit :=
  .done { c with attachment := some ⟨data, function⟩ } () (Attachment.release c.attachment)

-- Changes the attached data in place; it keeps its release function.
def editData (edit : α → α) : Conversation α ρ :=
  { c with attachment := c.attachment.map fun a => { a with data := edit a.data } }

end Parley.Conversation
