import Regen.Registry

/-!
# Answering a request

Every named generator list runs over every file to generate, in the given order, and the
answers are merged as they come. The first failure is the outcome. A request that has been served
is still refused when a name of a file to generate is no text, as the names are put into a line for
the log. An answer is written only when the whole request has been served.
-/

namespace Regen.Dispatch

/-- Asks one generator and merges its answer. -/
def askInto (c : Generator.Context) (whole : Response) (g : Generator) : Session Response := do
  return whole.merge (← g.ask c)

/-- Runs generators over one file. -/
def handleFile (request : Request) (stable : Bool) (gs : List Generator) (whole : Response)
    (file : Handed) : Session Response := do
  match request.descriptor? file with
  | none => throw (.plugin (.noDescriptor file.shown))
  | some d => gs.foldlM (askInto ⟨request, d, stable⟩) whole

/-- Runs the generators of one name over all files. -/
def handlePlugin (registry : Registry) (request : Request) (stable : Bool) (whole : Response)
    (plugin : String) : Session Response := do
  let gs ← Session.ofExcept (registry.resolve plugin)
  request.names.foldlM (handleFile request stable gs) whole

/-- Asks for texts as the names of the files to generate. -/
def demandNames (request : Request) : Except Failure Unit :=
  if request.names.all Handed.isText then .ok () else .error (.value .octets)

/-- Serves a request. -/
def handle (registry : Registry) (plugins : List String) (request : Request) (stable : Bool) :
    Session Response := do
  let r ← plugins.foldlM (handlePlugin registry request stable) .empty
  Session.ofExcept (demandNames request)
  return r

/-- Serves an encoded request; the result is the encoded answer. Without a registry the one that
    the settings ask for is built. -/
def serve (s : Settings) (registry : Option Registry) (payload : Bytes) : Session Bytes := do
  match Request.decode? payload with
  | none => throw (.plugin .undecodableRequest)
  | some request =>
    let registry ← match registry with
      | some r => pure r
      | none => Registry.build s
    return (← handle registry s.pluginBackends request true).encode

/-- Serves an encoded request and writes the encoded answer. -/
def answer (s : Settings) (registry : Option Registry) (payload : Bytes) : Session Unit := do
  Session.note (.answered (← serve s registry payload))

end Regen.Dispatch
