import Secupload.Shared.Models

namespace Secupload.Shared

open Library

def channelControl : ℤ := 0
def channelRelay : ℤ := 1

def maxFrameSize : ℕ := 64 * 1024 * 1024

structure Frame where
  channel : ℤ
  payload : Bytes
  deriving DecidableEq

-- a socket that fails raises FrameError too
def sendFrame (channel : ℤ) (payload : Bytes) : Except Exn Frame :=
  if maxFrameSize < payload.length then .error (.frameError "frame too large")
  else .ok ⟨channel, payload⟩

end Secupload.Shared
