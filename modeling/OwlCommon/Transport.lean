import OwlCommon.Messages
import OwlCommon.Receiver.Delivery
import OwlCommon.Socket.Send

/-!
# From one end to the other

A sender encodes values with one message's encoder and sends each frame with
`ClientSocket::send`; the kernel takes each buffer in pieces of its choosing, and the receiving
socket delivers the byte stream in chunks of its own, with would-blocks between them, to a
`MessageReceiver`. When every send returns, the receiver's stream is the frames one after another
(`sendAll_taken`). Every frame an encoder writes below `2 ^ 32` bytes is a frame the receiver cuts
out (`isFrame_of_framed`), so over every sequence of calls the buffers returned decode to the first
values sent, in order, and one `getNextMessage` per value, its flag clear, returns the frames of
all of them, which decode to them (`transport_delivers`).
-/

namespace OwlCommon

open Receiver Socket WorldModel

/-- A buffer whose length field is its length less four, shorter than `2 ^ 32` bytes, is a frame
the receiver cuts out whole. -/
theorem isFrame_of_framed {F : Buffer} (hF : Framed F) (hsmall : F.length < 2 ^ 32) : IsFrame F :=
  ⟨by unfold Framed at hF; omega, hF, hsmall⟩

/-- Values encoded with a message's encoder, each frame shorter than `2 ^ 32` bytes, sent one
after another with `ClientSocket::send`, every send returning, whatever pieces the kernel took
each time: on a receiving socket that delivers the bytes sent, in chunks, with would-blocks between
them, every sequence of calls that returns returns buffers that decode to the first values sent,
in order; and one `getNextMessage` per value, each with its flag read clear two more times than
the socket has receives, returns the frames of the values, which decode to them, and leaves
nothing behind. -/
theorem transport_delivers {α β : Type} {make : α → Buffer} {decode : Buffer → β} {back : α → β}
    (hrt : RoundTrips make decode back) (vs : List α) (hsmall : ∀ v ∈ vs, (make v).length < 2 ^ 32)
    (sock_fd : Int) (calls : List (Buffer × List Attempt)) (hcalls : calls.map Prod.fst = vs.map make)
    (hret : ∀ res ∈ sendAll sock_fd calls, res.outcome = .returns)
    (socket : List Received) (hsock : Script socket)
    (hdata : pending socket = ((sendAll sock_fd calls).map SendResult.taken).flatten) :
    (∀ receives replies r, Receiver.runCalls receives (MessageReceiver.init socket) = .returns replies r →
      ∃ k, (messages replies).map decode = (vs.map back).take k) ∧
    ∃ r, Receiver.runCalls
        (List.replicate vs.length (.getNextMessage (List.replicate (socket.length + 2) false)))
        (MessageReceiver.init socket) = .returns (vs.map fun v => .message (make v)) r ∧
      (messages (vs.map fun v => .message (make v))).map decode = vs.map back ∧ stream r = [] := by
  have hframes : ∀ f ∈ vs.map make, IsFrame f := by
    intro f hf
    obtain ⟨v, hv, rfl⟩ := List.mem_map.mp hf
    exact isFrame_of_framed ((hrt v).1 (by have := hsmall v hv; omega)) (hsmall v hv)
  have hlen : ∀ c ∈ calls, c.1.length < 2 ^ 63 := by
    rintro ⟨buff, attempts⟩ hc
    obtain ⟨v, hv, rfl⟩ := List.mem_map.mp (hcalls ▸ List.mem_map_of_mem Prod.fst hc)
    exact (hsmall v hv).trans (by decide)
  have hstream : stream (MessageReceiver.init socket) = (vs.map make).flatten := by
    rw [stream, MessageReceiver.init, List.nil_append, hdata, sendAll_taken sock_fd calls hlen hret,
      hcalls]
  have hdecode : (vs.map make).map decode = vs.map back := by
    rw [List.map_map]
    exact List.map_congr_left fun v hv => (hrt v).2 (hsmall v hv)
  have hreplies : (vs.map fun v => Reply.message (make v)) = (vs.map make).map Reply.message :=
    (List.map_map Reply.message make vs).symm
  refine ⟨fun receives replies r hrun => ?_, ?_⟩
  · obtain ⟨k, -, -, hk, -⟩ := runCalls_frames hrun hframes hstream
    exact ⟨k, by rw [hk, List.map_take, hdecode]⟩
  · obtain ⟨r, hrun, hend⟩ := runCalls_deliver_frames (socket.length) (vs.map make) _ hframes hsock
      (Nat.le_refl _) hstream
    rw [List.length_map] at hrun
    refine ⟨r, hreplies ▸ hrun, ?_, hend⟩
    rw [hreplies, messages_map_message _ fun f hf =>
      List.ne_nil_of_length_pos (by have := (hframes f hf).1; omega), hdecode]

/-- A request-complete message for ticket `7`, which the kernel takes in pieces of four and five
bytes and the receiving socket delivers in chunks of three and six with a would-block between. -/
theorem transport_delivers_request_complete :
    RoundTrips Client.makeRequestComplete Client.decodeRequestComplete id ∧
      (∀ v ∈ [(7 : UInt32)], (Client.makeRequestComplete v).length < 2 ^ 32) ∧
      [(Client.makeRequestComplete 7, [Attempt.sent 4, .sent 5])].map Prod.fst =
        [(7 : UInt32)].map Client.makeRequestComplete ∧
      (∀ res ∈ sendAll 3 [(Client.makeRequestComplete 7, [Attempt.sent 4, .sent 5])],
        res.outcome = .returns) ∧
      Script [.data ((Client.makeRequestComplete 7).take 3), .wouldBlock,
        .data ((Client.makeRequestComplete 7).drop 3)] ∧
      pending [.data ((Client.makeRequestComplete 7).take 3), .wouldBlock,
          .data ((Client.makeRequestComplete 7).drop 3)] =
        ((sendAll 3 [(Client.makeRequestComplete 7, [Attempt.sent 4, .sent 5])]).map
          SendResult.taken).flatten ∧
      ((∀ receives replies r, Receiver.runCalls receives
          (MessageReceiver.init [.data ((Client.makeRequestComplete 7).take 3), .wouldBlock,
            .data ((Client.makeRequestComplete 7).drop 3)]) = .returns replies r →
        ∃ k, (messages replies).map Client.decodeRequestComplete = ([(7 : UInt32)].map id).take k) ∧
      ∃ r, Receiver.runCalls
          (List.replicate [(7 : UInt32)].length (.getNextMessage (List.replicate
            ([Received.data ((Client.makeRequestComplete 7).take 3), .wouldBlock,
              .data ((Client.makeRequestComplete 7).drop 3)].length + 2) false)))
          (MessageReceiver.init [.data ((Client.makeRequestComplete 7).take 3), .wouldBlock,
            .data ((Client.makeRequestComplete 7).drop 3)]) =
          .returns ([(7 : UInt32)].map fun v => .message (Client.makeRequestComplete v)) r ∧
        (messages ([(7 : UInt32)].map fun v => .message (Client.makeRequestComplete v))).map
          Client.decodeRequestComplete = [(7 : UInt32)].map id ∧
        stream r = []) :=
  have hrt : RoundTrips Client.makeRequestComplete Client.decodeRequestComplete id :=
    fun v => ⟨fun _ => makeTicketMsg_framed _ v, fun _ => Client.decodeTicketMsg_makeTicketMsg _ v⟩
  ⟨hrt, by decide, rfl, by decide, by decide, by decide,
    transport_delivers hrt [7] (by decide) 3 [(Client.makeRequestComplete 7, [Attempt.sent 4, .sent 5])]
      rfl (by decide) _ (by decide) (by decide)⟩

end OwlCommon
