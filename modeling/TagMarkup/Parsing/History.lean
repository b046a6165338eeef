import TagMarkup.Parsing.Registry

/-!
# Histories of a registry

A history is a list of steps that create, define, share, drop and use cells and parsers. Each step
gives a reply and a new registry. A slot stands for anything that holds a parser, so also for a
parser that another one is shared with.
-/

namespace TagMarkup

universe u v

/-- A step of a history, on handles of cells and slots. Parsers are given in some form `π`. -/
inductive Step (π : Type u) where
  | create (handle name : String)
  | clone (handle other : String)
  | hold (slot : String) (parser : π)
  | share (slot other : String)
  | define (handle slot : String)
  | drop (slot : String)
  | isDefined (handle : String)
  | name (handle : String)
  | inspect (handle : String)
  | runCell (handle : String) (text : String)
  | runSlot (slot : String) (text : String)

/-- The step with its parser in another form. -/
def Step.map {π : Type u} {ρ : Type v} (f : π → ρ) : Step π → Step ρ
  | create handle label => .create handle label
  | clone handle other => .clone handle other
  | hold slot parser => .hold slot (f parser)
  | share slot other => .share slot other
  | define handle slot => .define handle slot
  | drop slot => .drop slot
  | isDefined handle => .isDefined handle
  | name handle => .name handle
  | inspect handle => .inspect handle
  | runCell handle text => .runCell handle text
  | runSlot slot text => .runSlot slot text

/-- What a step replies. -/
inductive Reply (ν : Type) where
  | done
  | flag (b : Bool)
  | text (s : String)
  | outcome (o : Outcome Fault ν)
  | fault (f : Fault)

namespace Registry

variable {ν : Type}

/-- Takes a step. -/
def step (r : Registry ν) : Step (Parser Fault (Uniform ν) ν) → Registry ν × Reply ν
  | .create handle name => (r.create handle name, .done)
  | .clone handle other => (r.clone handle other, .done)
  | .hold slot p => (r.hold slot p, .done)
  | .share slot other => (r.share slot other, .done)
  | .define handle slot =>
    match r.define handle slot with
    | .ok r => (r, .done)
    | .error f => (r, .fault f)
  | .drop slot => (r.drop slot, .done)
  | .isDefined handle => (r, .flag (r.isDefined handle))
  | .name handle => (r, ((r.cell? handle).map fun c => Reply.text c.name).getD .done)
  | .inspect handle => (r, ((r.cell? handle).map fun c => Reply.text c.inspect).getD .done)
  | .runCell handle text => (r, .outcome (r.runCell handle (Cursor.start text)))
  | .runSlot slot text =>
    match r.slots.lookup slot with
    | some held => (r, .outcome (r.runSlot held (Cursor.start text)))
    | none => (r, .done)

/-- Takes the steps of a history in turn. -/
def replay :
    Registry ν → List (Step (Parser Fault (Uniform ν) ν)) → Registry ν × List (Reply ν)
  | r, [] => (r, [])
  | r, s :: ss =>
    let (r, reply) := r.step s
    let (r, replies) := r.replay ss
    (r, reply :: replies)

end Registry

end TagMarkup
