import SpiProgrammer.Notice

/-! # Dialogues: programs that ask and are answered

An interface names the requests that can be made of a device and the type of reply each gets.
A dialogue either is done with a value, says something that needs no answer, or asks one
request and continues with the reply.  It does not know who answers: `through` answers each
request by a dialogue with the layer below, and `through?` by one that may break off.

Main statements: dialogues form a lawful monad, `through` and `through?` respect it, and they
agree where the layer below always answers. -/
set_option autoImplicit false

namespace SpiProgrammer

structure Interface where
  Request : Type
  Reply : Request → Type

/-- One request together with the reply it got. -/
structure Interface.Event (I : Interface) where
  request : I.Request
  reply : I.Reply request

/-- The two interfaces side by side. -/
@[reducible]
def Interface.both (I J : Interface) : Interface where
  Request := I.Request ⊕ J.Request
  Reply := Sum.elim I.Reply J.Reply

inductive Dialogue (I : Interface) (α : Type) : Type where
  | done (value : α)
  | say (notice : Notice) (rest : Dialogue I α)
  | ask (request : I.Request) (next : I.Reply request → Dialogue I α)

namespace Dialogue

variable {I J : Interface} {α β γ σ : Type}

protected def bind : Dialogue I α → (α → Dialogue I β) → Dialogue I β
  | .done value, f => f value
  | .say notice rest, f => .say notice (rest.bind f)
  | .ask request next, f => .ask request fun reply => (next reply).bind f

instance : Monad (Dialogue I) where
  pure := .done
  bind := Dialogue.bind

theorem pure_eq (value : α) : (pure value : Dialogue I α) = .done value := rfl

theorem done_bind (value : α) (f : α → Dialogue I β) : (Dialogue.done value >>= f) = f value := rfl

theorem say_bind (notice : Notice) (rest : Dialogue I α) (f : α → Dialogue I β) :
    (Dialogue.say notice rest >>= f) = .say notice (rest >>= f) := rfl

theorem ask_bind (request : I.Request) (next : I.Reply request → Dialogue I α)
    (f : α → Dialogue I β) :
    (Dialogue.ask request next >>= f) = .ask request fun reply => next reply >>= f := rfl

protected theorem bind_done (d : Dialogue I α) : d.bind .done = d := by
  induction d with
  | done value => rfl
  | say notice rest ih => simp only [Dialogue.bind, ih]
  | ask request next ih => simp only [Dialogue.bind, ih]

protected theorem bind_assoc (d : Dialogue I α) (f : α → Dialogue I β) (g : β → Dialogue I γ) :
    (d.bind f).bind g = d.bind fun value => (f value).bind g := by
  induction d with
  | done value => rfl
  | say notice rest ih => simp only [Dialogue.bind, ih]
  | ask request next ih => simp only [Dialogue.bind, ih]

instance : LawfulMonad (Dialogue I) :=
  LawfulMonad.mk' (Dialogue I) Dialogue.bind_done (fun _ _ => rfl) Dialogue.bind_assoc

def request (r : I.Request) : Dialogue I (I.Reply r) :=
  .ask r .done

def tell (notice : Notice) : Dialogue I Unit :=
  .say notice (.done ())

def log (level : Log.Level) (text : String) : Dialogue I Unit :=
  tell (.log ⟨level, text⟩)

def printLine (text : String) : Dialogue I Unit :=
  tell (.output (text ++ "\n"))

/-- Each request is answered by a dialogue of its own with the layer below; what is said is
passed on. -/
def through (serve : (r : I.Request) → Dialogue J (I.Reply r)) : Dialogue I α → Dialogue J α
  | .done value => .done value
  | .say notice rest => .say notice (rest.through serve)
  | .ask request next => (serve request).bind fun reply => (next reply).through serve

theorem through_bind (serve : (r : I.Request) → Dialogue J (I.Reply r)) (d : Dialogue I α)
    (f : α → Dialogue I β) :
    (d >>= f).through serve = (d.through serve >>= fun value => (f value).through serve) := by
  show (d.bind f).through serve = (d.through serve).bind fun value => (f value).through serve
  induction d with
  | done value => rfl
  | say notice rest ih => simp only [Dialogue.bind, through, ih]
  | ask request next ih => simp only [Dialogue.bind, through, ih, Dialogue.bind_assoc]

/-- Like `through`, but the layer below may break off instead of answering, and then the whole
dialogue breaks off there. -/
def through? (serve : (r : I.Request) → Dialogue J (Option (I.Reply r))) :
    Dialogue I α → Dialogue J (Option α)
  | .done value => .done (some value)
  | .say notice rest => .say notice (rest.through? serve)
  | .ask request next => (serve request).bind fun answer =>
    match answer with
    | some reply => (next reply).through? serve
    | none => .done none

theorem through?_bind (serve : (r : I.Request) → Dialogue J (Option (I.Reply r)))
    (d : Dialogue I α) (f : α → Dialogue I β) :
    (d >>= f).through? serve = (d.through? serve >>= fun outcome =>
      match outcome with
      | some value => (f value).through? serve
      | none => .done none) := by
  show (d.bind f).through? serve = (d.through? serve).bind _
  induction d with
  | done value => rfl
  | say notice rest ih => simp only [Dialogue.bind, through?, ih]
  | ask request next ih =>
    simp only [Dialogue.bind, through?, Dialogue.bind_assoc]
    congr 1
    funext answer
    cases answer with
    | none => rfl
    | some reply => exact ih reply

/-- A dialogue with the first of two interfaces, held while both are at hand. -/
def onLeft (d : Dialogue I α) : Dialogue (I.both J) α :=
  d.through fun r => Dialogue.request (I := I.both J) (.inl r)

def onRight (d : Dialogue J α) : Dialogue (I.both J) α :=
  d.through fun r => Dialogue.request (I := I.both J) (.inr r)

/-- Serves the first of two interfaces by dialogues with the layer below, and passes on what is
asked of the second. -/
def serveLeft {K : Interface} (serve : (r : I.Request) → Dialogue J (I.Reply r)) :
    (r : (I.both K).Request) → Dialogue (J.both K) ((I.both K).Reply r)
  | .inl r => (serve r).onLeft
  | .inr r => Dialogue.request (I := J.both K) (.inr r)

/-- A dialogue whose first interface is served by the layer below. -/
def throughLeft {K : Interface} (serve : (r : I.Request) → Dialogue J (I.Reply r))
    (d : Dialogue (I.both K) α) : Dialogue (J.both K) α :=
  d.through (serveLeft serve)

def serveLeft? {K : Interface} (serve : (r : I.Request) → Dialogue J (Option (I.Reply r))) :
    (r : (I.both K).Request) → Dialogue (J.both K) (Option ((I.both K).Reply r))
  | .inl r => (serve r).onLeft
  | .inr r => (Dialogue.request (I := J.both K) (.inr r)).bind fun reply => .done (some reply)

def throughLeft? {K : Interface} (serve : (r : I.Request) → Dialogue J (Option (I.Reply r)))
    (d : Dialogue (I.both K) α) : Dialogue (J.both K) (Option α) :=
  d.through? (serveLeft? serve)

end Dialogue

end SpiProgrammer
