import EdgeStreams.Proofs.Registry.Lookup

/-!
# Looking up in a session

What the changes that a session offers do to its parts, and what looking an entry up comes to.

## Main statements

- `Session.exec_source`, `Session.exec_sink`, `Session.exec_bridge`: an entry that must live
- `Session.exec_takeReady`: what a reader finds
-/

namespace EdgeStreams

variable {H E : Type}

namespace Session

variable (s : Session H E)

section Parts

variable (r : ReadableId) (w : WritableId) (b : BridgeId)
variable (source : Source E) (sink : Sink E) (bridge : Bridge E)
variable (event : StreamEvent) (chunks : List Bytes) (f : Registry E → Registry E)

@[simp] theorem streams_mapStreams : (mapStreams f s).streams = f s.streams := rfl

@[simp] theorem streams_setSource :
    (setSource r source s).streams = s.streams.setSource r source := rfl

@[simp] theorem streams_setSink : (setSink w sink s).streams = s.streams.setSink w sink := rfl

@[simp] theorem streams_setBridge :
    (setBridge b bridge s).streams = s.streams.setBridge b bridge := rfl

@[simp] theorem streams_note : (note event s).streams = s.streams := rfl

@[simp] theorem streams_noteEnqueued : (noteEnqueued r chunks s).streams = s.streams := rfl

@[simp] theorem host_mapStreams : (mapStreams f s).host = s.host := rfl

@[simp] theorem host_setSource : (setSource r source s).host = s.host := rfl

@[simp] theorem host_setSink : (setSink w sink s).host = s.host := rfl

@[simp] theorem host_setBridge : (setBridge b bridge s).host = s.host := rfl

@[simp] theorem host_note : (note event s).host = s.host := rfl

@[simp] theorem host_noteEnqueued : (noteEnqueued r chunks s).host = s.host := rfl

end Parts

@[simp] theorem exec_source (id : ReadableId) :
    exec (source id) s = (Registry.need (s.streams.source? id), s) := by
  simp [source]

@[simp] theorem exec_sink (id : WritableId) :
    exec (sink id) s = (Registry.need (s.streams.sink? id), s) := by
  simp [sink]

@[simp] theorem exec_bridge (id : BridgeId) :
    exec (bridge id) s = (Registry.need (s.streams.bridge? id), s) := by
  simp [bridge]

variable {s}

/-- The journal notes a chunk that a reader takes. -/
def noteDelivered (id : ReadableId) : Except StreamError (Option ReadOutcome) → Session H E →
    Session H E
  | .ok (some (.chunk data)), s => note (.delivered id data) s
  | _, s => s

@[simp] theorem streams_noteDelivered (id : ReadableId)
    (found : Except StreamError (Option ReadOutcome)) :
    (noteDelivered id found s).streams = s.streams := by
  unfold noteDelivered
  split <;> rfl

@[simp] theorem host_noteDelivered (id : ReadableId)
    (found : Except StreamError (Option ReadOutcome)) :
    (noteDelivered id found s).host = s.host := by
  unfold noteDelivered
  split <;> rfl

/-- A reader finds what the controller has ready. -/
theorem exec_takeReady {id : ReadableId} {source : Source E}
    (h : s.streams.source? id = some source) :
    exec (takeReady id) s =
      (source.controller.takeReady.1,
        noteDelivered id source.controller.takeReady.1
          (setSource id { source with controller := source.controller.takeReady.2 } s)) := by
  simp only [takeReady, exec_bind, exec_source, h, Registry.need_some, exec_modify]
  cases source.controller.takeReady.1 with
  | error error => rfl
  | ok found =>
    cases found with
    | none => rfl
    | some outcome => cases outcome <;> rfl

end Session

end EdgeStreams
