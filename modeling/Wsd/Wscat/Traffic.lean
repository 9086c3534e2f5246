import Wsd.Wscat.Encode
import Wsd.Wscat.Segment

namespace wsd

/-- The bytes of masked frames, each under its key. -/
def maskedStream (frames : List (Frame × UInt32)) : List UInt8 :=
  Framing.stream (fun f => f.1.masked f.2) frames

/-- The payloads of the data frames among them. -/
def sentData (frames : List (Frame × UInt32)) : List UInt8 :=
  payloads ((frames.map Prod.fst).filter fun f => IsData f.opcode)

@[simp] theorem maskedStream_nil : maskedStream [] = [] := rfl

@[simp] theorem maskedStream_append (fs gs : List (Frame × UInt32)) :
    maskedStream (fs ++ gs) = maskedStream fs ++ maskedStream gs :=
  Framing.stream_append fs gs

@[simp] theorem sentData_nil : sentData [] = [] := rfl

@[simp] theorem sentData_append (fs gs : List (Frame × UInt32)) :
    sentData (fs ++ gs) = sentData fs ++ sentData gs := by
  simp [sentData, payloads_append]

/-- Frames have been put into a socket's send buffer, each as a whole. -/
def Puts (sk : Sk) (frames : List (Frame × UInt32)) (sk' : Sk) : Prop :=
  sk.sendbuf.Ok → sk'.sendbuf.Ok ∧ sk'.sendbuf.readable = sk.sendbuf.readable ++ maskedStream frames

namespace Puts

variable {sk sk1 sk2 : Sk} {fs gs : List (Frame × UInt32)}

theorem of_eq (h : sk1.sendbuf = sk.sendbuf) : Puts sk [] sk1 := by
  intro hok
  rw [h, maskedStream_nil, List.append_nil]
  exact ⟨hok, rfl⟩

theorem trans (h : Puts sk fs sk1) (h' : Puts sk1 gs sk2) : Puts sk (fs ++ gs) sk2 := by
  intro hok
  obtain ⟨hok1, hread⟩ := h hok
  obtain ⟨hok2, hread'⟩ := h' hok1
  rw [hread', hread, maskedStream_append, List.append_assoc]
  exact ⟨hok2, rfl⟩

theorem of_appended {bytes : List UInt8} {f : Frame} {key : UInt32} (hf : f.masked key = bytes)
    (h : sk.sendbuf.Ok → sk.sendbuf.Appended bytes sk1.sendbuf) : Puts sk [(f, key)] sk1 := by
  intro hok
  have happended := h hok
  rw [happended.readable hok, maskedStream, Framing.stream_cons, Framing.stream_nil, List.append_nil, hf]
  exact ⟨happended.ok hok, rfl⟩

end Puts

end wsd
