import ChunkRelay.Proofs.Device.Presented
import ChunkRelay.Proofs.Report.Codec
import ChunkRelay.Proofs.Secrecy.Platform

/-! # Devices in memory that hold different secrets

Platforms over devices in memory are twins if the devices' authorizations have the same mask and fit
into their reports.
-/

namespace ChunkRelay

open Act

variable {σ σ' α β : Type} {R : σ → σ' → Prop} {x : Act σ α} {y : Act σ' α}

theorem Outcome.Mirrors.asReply {A : α → α → Prop} {o : Outcome σ α} {o' : Outcome σ' α}
    (mirrors : o.Mirrors R A o') {E : Except Failure β → Except Failure β → Prop} {pass : α → β}
    (refused : ∀ e, E (.error e) (.error e))
    (passed : ∀ {a a'}, A a a' → E (.ok (pass a)) (.ok (pass a'))) :
    E (o.asReply pass).answer (o'.asReply pass).answer ∧
      (o.asReply pass).stops = (o'.asReply pass).stops ∧
      R (o.asReply pass).world (o'.asReply pass).world := by
  obtain ⟨answer, notes, s⟩ := o
  obtain ⟨answer', notes', s'⟩ := o'
  obtain ⟨answers, -, world⟩ := mirrors
  refine ⟨?_, rfl, world⟩
  cases answers with
  | ok related => exact passed related
  | error same =>
      change E (.error (.fault .system _)) (.error (.fault .system _))
      rw [same.message]
      exact refused _

theorem HoldSameMask.windowTo {bytes bytes' : List UInt8} (held : HoldSameMask bytes bytes') :
    HoldSameMask (windowTo bytes ReportId.authorization.limit)
      (windowTo bytes' ReportId.authorization.limit) := by
  have whole (bytes : List UInt8) :
      Codec.decodeText (ChunkRelay.windowTo bytes ReportId.authorization.limit)
        ReportId.authorization.limit = Codec.decodeText bytes ReportId.authorization.limit := by
    rw [Codec.decodeText_eq (by decide), Codec.decodeText_eq (by decide), windowTo_nat,
      List.take_take]
    rfl
  obtain ⟨text, text', decoded, decoded', masked⟩ := held
  exact ⟨text, text', (whole bytes).trans decoded, (whole bytes').trans decoded', masked⟩

namespace InMemoryDevice

/-- Devices in the same state, with one authorization and with the other. -/
def Disguised (a a' : String) (d d' : InMemoryDevice) : Prop :=
  d.config.authorization = a ∧ d' = { d with config := { d.config with authorization := a' } }

variable {a a' : String}

theorem feature_other {config : DeviceConfig} {id : Int}
    (other : id ≠ ReportId.authorization.code) :
    feature? { config with authorization := a } id = feature? config id := by
  rw [feature?, feature?]
  cases known : ReportId.ofCode? id with
  | none => rfl
  | some report =>
      have code := List.find?_some known
      cases report with
      | authorization => exact absurd (by simpa using code) (Ne.symm other)
      | _ => rfl

theorem requireOpen_mirrors (operation : String) :
    Mirrors (Disguised a a') Eq (requireOpen operation) (requireOpen operation) := by
  refine Mirrors.get.bind fun disguised => ?_
  rw [disguised.2]
  exact .ite (.pure rfl) (.refuse _)

theorem update_mirrors {f : InMemoryDevice → InMemoryDevice}
    (steady : ∀ d config, f { d with config } = { f d with config }) :
    Mirrors (Disguised a a') Eq (modify f) (modify f) := by
  apply Mirrors.modify
  rintro d _ ⟨rfl, rfl⟩
  have kept : (f d).config = d.config := by
    simpa using congrArg InMemoryDevice.config (steady d d.config)
  refine ⟨by rw [kept], ?_⟩
  rw [steady, kept]

theorem readFeature_mirrors {id : Int} (other : id ≠ ReportId.authorization.code) (limit : Int) :
    Mirrors (Disguised a a') Eq (readFeature id limit) (readFeature id limit) := by
  refine (requireOpen_mirrors _).andThen fun _ => Mirrors.get.bind fun {d d'} disguised => ?_
  obtain ⟨rfl, rfl⟩ := disguised
  dsimp only
  rw [feature_other (a := a') other]
  cases feature? d.config id with
  | none => exact .refuse _
  | some report => exact (Mirrors.ofExcept (.refl _)).andThen fun _ => .pure rfl

theorem readAuthorization_mirrors (masked : SameMask a a')
    (carries : Codec.Carries ReportId.authorization.limit a)
    (carries' : Codec.Carries ReportId.authorization.limit a') :
    let id := ReportId.authorization
    Mirrors (Disguised a a') HoldSameMask (readFeature id.code id.limit)
      (readFeature id.code id.limit) := by
  intro id
  refine (requireOpen_mirrors _).andThen fun _ => Mirrors.get.bind fun {d d'} disguised => ?_
  obtain ⟨rfl, rfl⟩ := disguised
  have encoded {text : String} (carries : Codec.Carries id.limit text) :
      (Report.authorization text).encode = .ok (id.code, Utf8.encode text) := by
    rw [Report.encode, Report.write]
    change Except.map _ (Codec.encodeText text id.limit) = _
    rw [Codec.encodeText_carried carries]
    rfl
  have held : feature? d.config id.code = some (.authorization d.config.authorization) := rfl
  have held' : feature? { d.config with authorization := a' } id.code =
      some (.authorization a') := rfl
  rw [held, held']
  dsimp only
  rw [encoded carries, encoded carries']
  refine .pure ⟨_, _, ?_, ?_, masked⟩
  · rw [windowTo_whole carries.fits.le, Codec.decodeText_encoded carries]
  · rw [windowTo_whole carries'.fits.le, Codec.decodeText_encoded carries']

theorem writeOutput_mirrors (id : Int) (bytes : List UInt8) :
    Mirrors (Disguised a a') Eq (writeOutput id bytes) (writeOutput id bytes) := by
  refine (requireOpen_mirrors _).andThen fun _ => .ite (.refuse _) ?_
  cases Codec.decodeControl bytes with
  | error cause => exact .refuse _
  | ok enabled => exact (update_mirrors fun _ _ => rfl).andThen fun _ => .pure rfl

theorem readInput_mirrors (limit timeoutMs : Int) :
    Mirrors (Disguised a a') Eq (readInput limit timeoutMs) (readInput limit timeoutMs) := by
  refine (requireOpen_mirrors _).andThen fun _ => Mirrors.get.bind fun {d d'} disguised => ?_
  obtain ⟨rfl, rfl⟩ := disguised
  cases d.streaming with
  | false => exact .refuse _
  | true =>
      cases d.pending with
      | nil => exact .refuse _
      | cons payload rest =>
          refine Mirrors.andThen (.set ⟨rfl, rfl⟩) fun _ =>
            (Mirrors.ofExcept (.refl _)).andThen fun _ => ?_
          exact (update_mirrors fun _ _ => rfl).andThen fun _ => .pure rfl

theorem native_read_twin (size : Int) (timeoutMs? : Option Int) :
    Call.Twin (Disguised a a') Eq (native.read size timeoutMs?) (native.read size timeoutMs?) := by
  intro d d' disguised
  have heard := readInput_mirrors (size - 1) (timeoutMs?.getD 0) d d' disguised
  -- Whether there is something to send does not depend on the authorization.
  have alike : (d.isOpen = true ∧ d.IsIdle) ↔ (d'.isOpen = true ∧ d'.IsIdle) := by
    rw [disguised.2]
    exact Iff.rfl
  rw [native]
  dsimp only
  by_cases silent : d.isOpen = true ∧ d.IsIdle
  · rw [if_pos silent, if_pos (alike.mp silent)]
    exact ⟨rfl, rfl, disguised⟩
  · rw [if_neg silent, if_neg (mt alike.mpr silent)]
    exact heard.asReply (fun _ => rfl) fun same => same ▸ rfl

theorem native_twin (masked : SameMask a a')
    (carries : Codec.Carries ReportId.authorization.limit a)
    (carries' : Codec.Carries ReportId.authorization.limit a') :
    native.Twin (Disguised a a') native where
  openIds _ _ _ _ _ := fun ⟨held, same⟩ => ⟨rfl, rfl, held, same ▸ rfl⟩
  openPath _ _ _ := fun ⟨held, same⟩ => ⟨rfl, rfl, held, same ▸ rfl⟩
  close _ _ := fun ⟨held, same⟩ => ⟨rfl, rfl, held, same ▸ rfl⟩
  setNonblocking _ _ _ disguised := ⟨rfl, rfl, disguised⟩
  read := native_read_twin
  write bytes d d' disguised := by
    cases bytes with
    | nil => exact ⟨rfl, rfl, disguised⟩
    | cons id rest =>
        exact (writeOutput_mirrors _ _ d d' disguised).asReply (fun _ => rfl) fun same => same ▸ rfl
  getFeature id size other d d' disguised :=
    (readFeature_mirrors other _ d d' disguised).asReply (fun _ => rfl) fun same => same ▸ rfl
  authorization d d' disguised := by
    have read := readAuthorization_mirrors masked carries carries' d d' disguised
    rw [native]
    dsimp only
    rw [Int.add_sub_cancel]
    refine read.asReply .refused fun held => .read ?_
    rw [window_tail, window_tail]
    exact held.windowTo
  enumerate _ _ _ _ disguised := ⟨rfl, rfl, disguised⟩

end InMemoryDevice

theorem Platform.loopback_twin {a a' : String} (masked : SameMask a a')
    (carries : Codec.Carries ReportId.authorization.limit a)
    (carries' : Codec.Carries ReportId.authorization.limit a') :
    loopback.Twin (InMemoryDevice.Disguised a a') loopback where
  native := InMemoryDevice.native_twin masked carries carries'
  post _ _ _ disguised := ⟨rfl, rfl, disguised⟩
  close _ _ disguised := ⟨rfl, rfl, disguised⟩
  clock := .pure rfl
  logRefusal := rfl

end ChunkRelay
