import Mathlib.Data.List.Forall2
import ChunkRelay.Proofs.Device.Calls
import ChunkRelay.Proofs.Secrecy.Authorization
import ChunkRelay.Proofs.Secrecy.Mirrors

/-! # Platforms that hold different secrets

Platforms are twins if they answer every call the same, except that the authorization which their
devices give may have different secrets. Connections and uploaders over twins mirror each other, and
the records of their calls differ in the secrets only.
-/

namespace ChunkRelay

open Act

variable {σ σ' α α' β β' : Type}

/-- Calls that answer as `A` says and are alike in everything else. -/
def Call.Twin (R : σ → σ' → Prop) (A : Except Failure α → Except Failure α → Prop)
    (call : Call σ α) (call' : Call σ' α) : Prop :=
  ∀ s s', R s s' → A (call s).answer (call' s').answer ∧ (call s).stops = (call' s').stops ∧
    R (call s).world (call' s').world

/-- Bytes of authorization reports whose texts have the same mask. -/
def HoldSameMask (bytes bytes' : List UInt8) : Prop :=
  ∃ text text', Codec.decodeText bytes ReportId.authorization.limit = .ok text ∧
    Codec.decodeText bytes' ReportId.authorization.limit = .ok text' ∧ SameMask text text'

/-- Answers to a request for the authorization, with the report id in the first byte. -/
inductive SameButSecret : Except Failure (List UInt8) → Except Failure (List UInt8) → Prop where
  | refused (e : Failure) : SameButSecret (.error e) (.error e)
  | read {bytes bytes' : List UInt8}
      (held : HoldSameMask (window bytes 1 (1 + ReportId.authorization.limit))
        (window bytes' 1 (1 + ReportId.authorization.limit))) :
      SameButSecret (.ok bytes) (.ok bytes')

section Acts

variable {R : σ → σ' → Prop} {call : Call σ α} {call' : Call σ' α}

theorem Call.Twin.answers {E : Except Failure α → Except Failure α → Prop} {A : α → α → Prop}
    (twin : Call.Twin R E call call') (answers : ∀ {a a'}, E a a' → Answers A a a') :
    Mirrors R A call.act call'.act := by
  intro s s' holds
  obtain ⟨answer, stops, world⟩ := twin s s' holds
  refine ⟨answers answer, ?_, world⟩
  change (if (call s).stops then _ else _) = (if (call' s').stops then _ else _)
  rw [stops]

theorem Call.Twin.act (twin : Call.Twin R Eq call call') : Mirrors R Eq call.act call'.act :=
  twin.answers fun same => same ▸ .refl _

end Acts

structure NativeLibrary.Twin (R : σ → σ' → Prop) (lib : NativeLibrary σ)
    (lib' : NativeLibrary σ') : Prop where
  openIds : ∀ vendor product serial,
    Call.Twin R Eq (lib.openIds vendor product serial) (lib'.openIds vendor product serial)
  openPath : ∀ path, Call.Twin R Eq (lib.openPath path) (lib'.openPath path)
  close : Call.Twin R Eq lib.close lib'.close
  setNonblocking : ∀ nonblocking,
    Call.Twin R Eq (lib.setNonblocking nonblocking) (lib'.setNonblocking nonblocking)
  read : ∀ size timeoutMs?, Call.Twin R Eq (lib.read size timeoutMs?) (lib'.read size timeoutMs?)
  write : ∀ bytes, Call.Twin R Eq (lib.write bytes) (lib'.write bytes)
  getFeature : ∀ id size, id ≠ ReportId.authorization.code →
    Call.Twin R Eq (lib.getFeature id size) (lib'.getFeature id size)
  authorization :
    let id := ReportId.authorization
    Call.Twin R SameButSecret (lib.getFeature id.code (id.limit + 1))
      (lib'.getFeature id.code (id.limit + 1))
  enumerate : ∀ vendor product,
    Call.Twin R Eq (lib.enumerate vendor product) (lib'.enumerate vendor product)

structure Platform.Twin (R : σ → σ' → Prop) (p : Platform σ) (p' : Platform σ') : Prop where
  native : p.native.Twin R p'.native
  /-- The answers do not depend on the secret. -/
  post : ∀ {request request'}, PostRequest.SameMask request request' →
    Call.Twin R Eq (p.http.post request) (p'.http.post request')
  close : Call.Twin R Eq p.http.close p'.http.close
  clock : Mirrors R Eq p.clock p'.clock
  logRefusal : p.logRefusal? = p'.logRefusal?

variable {R : σ → σ' → Prop} {p : Platform σ} {p' : Platform σ'}

theorem Platform.Twin.logging (twin : p.Twin R p') (logRefusal? : Level → Option Defect) :
    Platform.Twin R { p with logRefusal? } { p' with logRefusal? } :=
  ⟨twin.native, twin.post, twin.close, twin.clock, rfl⟩

/-! ## Records -/

inductive NativeCall.SameMask : NativeCall → NativeCall → Prop where
  | refl (call : NativeCall) : SameMask call call
  | authorization {answer answer' : Except Failure (List UInt8)}
      (same : SameButSecret answer answer') (size : Int) :
      SameMask (.getFeature ReportId.authorization.code size answer)
        (.getFeature ReportId.authorization.code size answer')

inductive HttpCall.SameMask : HttpCall → HttpCall → Prop where
  | close (answer : Except Failure Unit) : SameMask (.close answer) (.close answer)
  | post {request request' : PostRequest} (same : PostRequest.SameMask request request')
      (answer : Except Failure Int) : SameMask (.post request answer) (.post request' answer)

/-- Worlds that are related, with calls that are the same but for the secrets in them. -/
structure Traced.SameMask (R : σ → σ' → Prop) (t : Traced σ) (t' : Traced σ') : Prop where
  world : R t.world t'.world
  native : List.Forall₂ NativeCall.SameMask t.native t'.native
  http : List.Forall₂ HttpCall.SameMask t.http t'.http

theorem Traced.SameMask.new {s : σ} {s' : σ'} (start : R s s') :
    Traced.SameMask R (Traced.new s) (Traced.new s') := ⟨start, .nil, .nil⟩

section Traced

variable {A : Except Failure α → Except Failure α → Prop} {call : Call σ α} {call' : Call σ' α}

theorem Call.Twin.entered {enter : Except Failure α → NativeCall} (twin : Call.Twin R A call call')
    (same : ∀ {a a'}, A a a' → NativeCall.SameMask (enter a) (enter a')) :
    Call.Twin (Traced.SameMask R) A (call.asNative enter) (call'.asNative enter) := by
  intro t t' ⟨world, native, http⟩
  obtain ⟨answer, stops, world⟩ := twin t.world t'.world world
  exact ⟨answer, stops, world, List.rel_append native (.cons (same answer) .nil), http⟩

theorem Call.Twin.asNative (twin : Call.Twin R Eq call call')
    (enter : Except Failure α → NativeCall) :
    Call.Twin (Traced.SameMask R) Eq (call.asNative enter) (call'.asNative enter) :=
  twin.entered fun same => same ▸ .refl _

theorem Call.Twin.asHttp {enter enter' : Except Failure α → HttpCall}
    (twin : Call.Twin R Eq call call') (same : ∀ a, HttpCall.SameMask (enter a) (enter' a)) :
    Call.Twin (Traced.SameMask R) Eq (call.asHttp enter) (call'.asHttp enter') := by
  intro t t' ⟨world, native, http⟩
  obtain ⟨answer, stops, world⟩ := twin t.world t'.world world
  refine ⟨answer, stops, world, native, List.rel_append http (.cons ?_ .nil)⟩
  rw [answer]
  exact same _

end Traced

theorem NativeLibrary.Twin.traced {lib : NativeLibrary σ} {lib' : NativeLibrary σ'}
    (twin : lib.Twin R lib') : NativeLibrary.Twin (Traced.SameMask R) lib.traced lib'.traced where
  openIds vendor product serial := (twin.openIds vendor product serial).asNative _
  openPath path := (twin.openPath path).asNative _
  close := twin.close.asNative _
  setNonblocking nonblocking := (twin.setNonblocking nonblocking).asNative _
  read size timeoutMs? := (twin.read size timeoutMs?).asNative _
  write bytes := (twin.write bytes).asNative _
  getFeature id size other := (twin.getFeature id size other).asNative _
  authorization := twin.authorization.entered fun same => .authorization same _
  enumerate vendor product := (twin.enumerate vendor product).asNative _

theorem Platform.Twin.traced (twin : p.Twin R p') :
    Platform.Twin (Traced.SameMask R) p.traced p'.traced where
  native := twin.native.traced
  post same := (twin.post same).asHttp (.post same)
  close := twin.close.asHttp .close
  clock := twin.clock.within (fun same => same.world) fun same world => { same with world }
  logRefusal := twin.logRefusal

/-! ## Connections -/

namespace Connection

variable {lib : NativeLibrary σ} {lib' : NativeLibrary σ'} {A : α → α' → Prop}

theorem native_mirrors {call : Call σ α} {call' : Call σ' α} (twin : Call.Twin R Eq call call') :
    Mirrors (Alongside R) Eq (native call) (native call') := Alongside.outside twin.act

theorem update_mirrors (f : Connection → Connection) :
    Mirrors (Alongside R) Eq (update f) (update f) := Alongside.update f

theorem requireOpen_mirrors (operation : String) :
    Mirrors (Alongside R) Eq (requireOpen operation) (requireOpen operation) :=
  Alongside.state.andThen fun _ => .ite (.pure rfl) (.refuse _)

theorem checkFilter_mirrors (id : Int) :
    Mirrors (Alongside R) Eq (checkFilter id) (checkFilter id) := by
  refine Alongside.state.andThen fun c => ?_
  cases c.filter? with
  | none => exact .pure rfl
  | some allowed => exact .ite (.pure rfl) (.refuse _)

theorem onDeviceFault_mirrors {x : Act (Connection × σ) α} {y : Act (Connection × σ') α'}
    {handle : String → Act (Connection × σ) α} {handle' : String → Act (Connection × σ') α'}
    (tried : Mirrors (Alongside R) A x y)
    (handled : ∀ reason, Mirrors (Alongside R) A (handle reason) (handle' reason)) :
    Mirrors (Alongside R) A (onDeviceFault x handle) (onDeviceFault y handle') := by
  apply tried.tryCatch
  intro e e' same
  rw [same.isDeviceFault, same.message]
  exact .ite (handled _) (.fail same)

variable (twin : lib.Twin R lib')
include twin

theorem dropHandle_mirrors : Mirrors (Alongside R) Eq (dropHandle lib) (dropHandle lib') := by
  refine Alongside.state.andThen fun c => .ite ?_ (.pure rfl)
  refine (update_mirrors _).andThen fun _ => ?_
  exact onDeviceFault_mirrors (native_mirrors twin.close) fun _ => .log _ _ _

theorem guarded_mirrors {x : Act (Connection × σ) α} {y : Act (Connection × σ') α'}
    (tried : Mirrors (Alongside R) A x y) (cause : String → Cause) :
    Mirrors (Alongside R) A
      (onDeviceFault x fun reason => do dropHandle lib; Act.failWith (cause reason))
      (onDeviceFault y fun reason => do dropHandle lib'; Act.failWith (cause reason)) :=
  onDeviceFault_mirrors tried fun _ => (dropHandle_mirrors twin).andThen fun _ => .refuse _

theorem openDevice_mirrors : Mirrors (Alongside R) Eq (openDevice lib) (openDevice lib') := by
  have opened (address : DeviceAddress) :
      Mirrors (Alongside R) Eq (openNative lib address) (openNative lib' address) := by
    refine .ite ?_ (native_mirrors (twin.openIds _ _ _))
    cases address.path with
    | text path => exact native_mirrors (twin.openPath _)
    | _ => exact .refuse _
  refine Alongside.state.andThen fun c => .ite (.pure rfl) ?_
  refine (onDeviceFault_mirrors (opened _) fun _ => .refuse _).andThen fun _ => ?_
  exact update_mirrors _

theorem closeDevice_mirrors : Mirrors (Alongside R) Eq (closeDevice lib) (closeDevice lib') := by
  refine Alongside.state.andThen fun c => .ite ?_ (.pure rfl)
  exact (native_mirrors twin.close).followedBy (update_mirrors _)

theorem setNonblocking_mirrors (nonblocking : Bool) :
    Mirrors (Alongside R) Eq (setNonblocking lib nonblocking)
      (setNonblocking lib' nonblocking) := by
  refine (requireOpen_mirrors _).andThen fun _ => ?_
  refine (onDeviceFault_mirrors (native_mirrors (twin.setNonblocking _)) fun _ =>
    .refuse _).andThen fun _ => ?_
  exact update_mirrors _

theorem writeOutput_mirrors (id : Int) (bytes : List UInt8) :
    Mirrors (Alongside R) Eq (writeOutput lib id bytes) (writeOutput lib' id bytes) := by
  refine (requireOpen_mirrors _).andThen fun _ => (checkFilter_mirrors id).andThen fun _ => ?_
  have written : Mirrors (Alongside R) Eq (writeNative lib id bytes) (writeNative lib' id bytes) :=
    .ite (native_mirrors (twin.write _)) (.refuse _)
  refine (guarded_mirrors twin written _).andThen fun count => ?_
  exact .ite (.refuse _) (.pure rfl)

theorem readInput_mirrors (limit timeoutMs : Int) :
    Mirrors (Alongside R) Eq (readInput lib limit timeoutMs) (readInput lib' limit timeoutMs) := by
  have heard : Mirrors (Alongside R) Eq (readNative lib limit timeoutMs)
      (readNative lib' limit timeoutMs) := by
    refine .ite (native_mirrors (twin.read _ _)) (Alongside.state.andThen fun c => ?_)
    exact .ite ((setNonblocking_mirrors twin _).andThen fun _ => native_mirrors (twin.read _ _))
      (native_mirrors (twin.read _ _))
  refine (requireOpen_mirrors _).andThen fun _ => (guarded_mirrors twin heard _).andThen ?_
  rintro (_ | ⟨id, rest⟩)
  · exact .refuse _
  · exact (checkFilter_mirrors _).andThen fun _ => .pure rfl

theorem readFeature_mirrors {id : Int} (other : id ≠ ReportId.authorization.code) (limit : Int) :
    Mirrors (Alongside R) Eq (readFeature lib id limit) (readFeature lib' id limit) := by
  refine (requireOpen_mirrors _).andThen fun _ => (checkFilter_mirrors id).andThen fun _ => ?_
  exact (guarded_mirrors twin (native_mirrors (twin.getFeature _ _ other)) _).andThen fun _ =>
    .pure rfl

theorem readAuthorization_mirrors :
    let id := ReportId.authorization
    Mirrors (Alongside R) HoldSameMask (readFeature lib id.code id.limit)
      (readFeature lib' id.code id.limit) := by
  intro id
  have read : Mirrors (Alongside R)
      (fun bytes bytes' => HoldSameMask (window bytes 1 (1 + id.limit))
        (window bytes' 1 (1 + id.limit)))
      (native (lib.getFeature id.code (id.limit + 1)))
      (native (lib'.getFeature id.code (id.limit + 1))) := by
    refine Alongside.outside (twin.authorization.answers ?_)
    rintro _ _ (e | held)
    · exact .error (.refl e)
    · exact .ok held
  refine (requireOpen_mirrors _).andThen fun _ => (checkFilter_mirrors _).andThen fun _ => ?_
  exact (guarded_mirrors twin read _).bind fun held => .pure held

end Connection

/-! ## Uploaders -/

namespace HttpUploader

theorem count_mirrors (f : UploadStats → UploadStats) :
    Mirrors (Alongside R) Eq (count f) (count f) :=
  Alongside.update fun u : HttpUploader => { u with stats := f u.stats }

theorem deliver_mirrors (twin : p.Twin R p') (uri : String) {authorization authorization' : String}
    (same : SameMask authorization authorization') (payload : List UInt8) :
    Mirrors (Alongside R) Eq (deliver p.http uri authorization payload)
      (deliver p'.http uri authorization' payload) := by
  have parsed : Mirrors (Alongside (τ := HttpUploader) R)
      (fun auth auth' : AuthHeader => auth.name = auth'.name)
      (ofCause (AuthHeader.parse authorization)) (ofCause (AuthHeader.parse authorization')) := by
    rcases same.parse with ⟨name, value, value', parsed, parsed'⟩ | ⟨refused, refused'⟩
    · rw [parsed, parsed']
      exact .pure rfl
    · rw [refused, refused']
      exact .fail (.authorization _ _)
  refine .ite (.refuse _) (parsed.bind fun {auth auth'} named => Mirrors.get.bind fun beside => ?_)
  rw [beside.1]
  refine (Mirrors.ofExcept (.refl _)).andThen fun timeout => ?_
  have requests : PostRequest.SameMask ⟨uri, payload, headers auth, timeout⟩
      ⟨uri, payload, headers auth', timeout⟩ := by
    obtain ⟨name, value⟩ := auth
    obtain ⟨name', value'⟩ := auth'
    obtain rfl : name = name' := named
    exact ⟨name, value, value', rfl, rfl⟩
  have posted := (Alongside.outside (τ := HttpUploader) (twin.post requests).act)
  refine Mirrors.andThen (posted.tryCatch fun {e e'} same => ?_) fun status => ?_
  · rw [same.isRequestFault, same.message]
    refine .ite ?_ (.fail same)
    exact (count_mirrors _).andThen fun _ => (Mirrors.log _ _ _).andThen fun _ => .refuse _
  · refine .ite ((count_mirrors _).andThen fun _ => Mirrors.get.bind fun beside => ?_)
      ((count_mirrors _).andThen fun _ => (Mirrors.logNumber _ _ _ _).andThen fun _ => .refuse _)
    rw [beside.1]
    exact (Mirrors.log _ _ _).andThen fun _ => .pure rfl

end HttpUploader

end ChunkRelay
