import ChunkRelay.Proofs.Secrecy.Platform

/-! # Sessions that hold different secrets

Sessions mirror each other over transports and uploaders that do. What tells their configurations
apart is handed to the uploader, and to nothing else.
-/

namespace ChunkRelay

open Act

variable {ω ω' : Type}

structure Transport.Mirrors (R : ω → ω' → Prop) (t : Transport ω) (t' : Transport ω') : Prop where
  feature : ∀ id : ReportId, id ≠ .authorization →
    Act.Mirrors R Eq (t.readFeature id.code id.limit Session.requestTimeoutMs)
      (t'.readFeature id.code id.limit Session.requestTimeoutMs)
  authorization :
    let id := ReportId.authorization
    Act.Mirrors R HoldSameMask (t.readFeature id.code id.limit Session.requestTimeoutMs)
      (t'.readFeature id.code id.limit Session.requestTimeoutMs)
  output : ∀ id bytes timeoutMs,
    Act.Mirrors R Eq (t.writeOutput id bytes timeoutMs) (t'.writeOutput id bytes timeoutMs)
  input : ∀ limit timeoutMs,
    Act.Mirrors R Eq (t.readInput limit timeoutMs) (t'.readInput limit timeoutMs)

def Uploader.Mirrors (R : ω → ω' → Prop) (u : Uploader ω) (u' : Uploader ω') : Prop :=
  ∀ uri {authorization authorization'} payload, SameMask authorization authorization' →
    Act.Mirrors R Eq (u.deliver uri authorization payload) (u'.deliver uri authorization' payload)

namespace Session

/-- Sessions in the same state, each with collaborators of its own. -/
structure Mirrors (R : ω → ω' → Prop) (s : Session ω) (s' : Session ω') : Prop where
  transport : Option.Rel (Transport.Mirrors R) s.transport? s'.transport?
  uploader : Option.Rel (Uploader.Mirrors R) s.uploader? s'.uploader?
  tracker : s.tracker = s'.tracker
  streaming : s.streaming = s'.streaming
  closed : s.closed = s'.closed

def Alongside (R : ω → ω' → Prop) (v : Session ω × ω) (v' : Session ω' × ω') : Prop :=
  v.1.Mirrors R v'.1 ∧ R v.2 v'.2

variable {R : ω → ω' → Prop} {α α' : Type} {A : α → α' → Prop}

theorem new_mirrors {t? : Option (Transport ω)} {t'? : Option (Transport ω')}
    {u? : Option (Uploader ω)} {u'? : Option (Uploader ω')}
    (transport : Option.Rel (Transport.Mirrors R) t? t'?)
    (uploader : Option.Rel (Uploader.Mirrors R) u? u'?) :
    Mirrors R (Session.new t? u?) (Session.new t'? u'?) := ⟨transport, uploader, rfl, rfl, rfl⟩

theorem state_mirrors : Act.Mirrors (Alongside R) (Mirrors R) state state :=
  Act.Mirrors.get.bind fun beside => .pure beside.1

theorem update_mirrors {f : Session ω → Session ω} {g : Session ω' → Session ω'}
    (kept : ∀ {s s'}, Mirrors R s s' → Mirrors R (f s) (g s')) :
    Act.Mirrors (Alongside R) Eq (update f) (update g) :=
  .modify fun beside => ⟨kept beside.1, beside.2⟩

theorem outside_mirrors {x : Act ω α} {y : Act ω' α'} (inner : Act.Mirrors R A x y) :
    Act.Mirrors (Alongside R) A (outside x) (outside y) :=
  inner.within (fun beside => beside.2) fun beside kept => ⟨beside.1, kept⟩

theorem requireTransport_mirrors (operation : String) :
    Act.Mirrors (Alongside R) (Transport.Mirrors R) (requireTransport operation)
      (requireTransport operation) := by
  refine state_mirrors.bind fun {s s'} same => ?_
  have given := same.transport
  revert given
  generalize s.transport? = t?
  generalize s'.transport? = t'?
  rintro (mirrors | _)
  · exact .pure mirrors
  · exact .refuse _

theorem readFeature_mirrors {id : ReportId} (other : id ≠ .authorization) :
    Act.Mirrors (Alongside R) Eq (readFeature id) (readFeature id) :=
  (requireTransport_mirrors _).bind fun same => outside_mirrors (same.feature id other)

theorem readText_mirrors {id : ReportId} (other : id ≠ .authorization) :
    Act.Mirrors (Alongside R) Eq (readText id) (readText id) :=
  (readFeature_mirrors other).andThen fun _ => .ofExcept (.refl _)

theorem readAuthorization_mirrors :
    Act.Mirrors (Alongside R) SameMask (readText .authorization) (readText .authorization) := by
  have read : Act.Mirrors (Alongside R) HoldSameMask (readFeature .authorization)
      (readFeature .authorization) :=
    (requireTransport_mirrors _).bind fun same => outside_mirrors same.authorization
  refine read.bind fun held => ?_
  obtain ⟨text, text', decoded, decoded', masked⟩ := held
  rw [decoded, decoded']
  exact .pure masked

theorem readConfig_mirrors :
    Act.Mirrors (Alongside R) DeviceConfig.SameMask readConfig readConfig := by
  have features : Act.Mirrors (Alongside R) Eq readFeatures readFeatures :=
    (readFeature_mirrors (by decide)).andThen fun _ => .ofExcept (.refl _)
  refine features.andThen fun _ => (readText_mirrors (by decide)).andThen fun _ => ?_
  refine (readText_mirrors (by decide)).andThen fun _ => ?_
  refine readAuthorization_mirrors.bind fun masked => ?_
  exact (Act.Mirrors.log _ _ _).andThen fun _ => .pure ⟨_, masked, rfl⟩

theorem writeControl_mirrors (enable : Bool) :
    Act.Mirrors (Alongside R) Eq (writeControl enable) (writeControl enable) :=
  (requireTransport_mirrors _).bind fun same =>
    (outside_mirrors (same.output _ _ _)).andThen fun _ => .pure rfl

theorem enable_mirrors : Act.Mirrors (Alongside R) Eq enable enable := by
  refine (writeControl_mirrors true).andThen fun _ => Act.Mirrors.andThen ?_ fun _ => .log _ _ _
  exact update_mirrors fun same => { same with streaming := rfl }

theorem disable_mirrors : Act.Mirrors (Alongside R) Eq disable disable := by
  refine (writeControl_mirrors false).andThen fun _ => Act.Mirrors.andThen ?_ fun _ => .log _ _ _
  exact update_mirrors fun same =>
    { same with streaming := rfl, tracker := congrArg Tracker.reset same.tracker }

theorem handleInput_mirrors (id : Int) (bytes : List UInt8) :
    Act.Mirrors (Alongside R) Eq (handleInput id bytes) (handleInput id bytes) := by
  refine .ite (.refuse _) ((Act.Mirrors.ofExcept (.refl _)).andThen fun packet => ?_)
  refine state_mirrors.bind fun {s s'} same => ?_
  rw [same.tracker]
  dsimp only
  generalize s'.tracker.see packet.sequence = seen
  refine Act.Mirrors.andThen (update_mirrors fun same => { same with tracker := rfl }) fun _ => ?_
  rcases seen with ⟨_ | _ | _, tracker⟩ <;>
    exact (Act.Mirrors.log _ _ _).andThen fun _ => .pure rfl

theorem readEvent_mirrors (timeoutMs : Int) :
    Act.Mirrors (Alongside R) Eq (readEvent timeoutMs) (readEvent timeoutMs) :=
  (requireTransport_mirrors _).bind fun same =>
    (outside_mirrors (same.input _ _)).andThen fun (id, bytes) => handleInput_mirrors id bytes

theorem forward_mirrors {config config' : DeviceConfig} (masked : config.SameMask config')
    (packet : StreamPacket) :
    Act.Mirrors (Alongside R) Eq (forward config packet) (forward config' packet) := by
  refine state_mirrors.bind fun {s s'} same => ?_
  have given := same.uploader
  revert given
  generalize s.uploader? = u?
  generalize s'.uploader? = u'?
  rintro (mirrors | _)
  · -- The uploader alone is handed the authorization, and it answers the same for both.
    obtain ⟨authorization, masked, rfl⟩ := masked
    exact (outside_mirrors (mirrors _ _ masked)).andThen fun _ => .pure rfl
  · exact .pure rfl

theorem process_mirrors {config config' : DeviceConfig} (masked : config.SameMask config')
    (timeoutMs : Int) :
    Act.Mirrors (Alongside R) Eq (process (some config) timeoutMs)
      (process (some config') timeoutMs) :=
  (readEvent_mirrors _).andThen fun _ => (forward_mirrors masked _).andThen fun _ => .pure rfl

theorem close_mirrors : Act.Mirrors (Alongside R) Eq close close := by
  refine state_mirrors.bind fun {s s'} same => ?_
  have given : s.transport?.isSome = s'.transport?.isSome := by
    have rel := same.transport
    revert rel
    generalize s.transport? = t?
    generalize s'.transport? = t'?
    rintro (_ | _) <;> rfl
  rw [same.closed, same.streaming, given]
  refine .ite (.pure rfl) ?_
  refine Act.Mirrors.andThen (update_mirrors fun same => { same with closed := rfl }) fun _ => ?_
  have forget : Act.Mirrors (Alongside R) Eq
      (update fun s => { s with tracker := s.tracker.reset })
      (update fun s => { s with tracker := s.tracker.reset }) :=
    update_mirrors fun same => { same with tracker := congrArg Tracker.reset same.tracker }
  refine .ite (Act.Mirrors.andThen ?_ fun _ => forget) forget
  apply disable_mirrors.tryCatch
  intro e e' same
  rw [same.message]
  exact .log _ _ _

end Session

end ChunkRelay
