import VelaWallet.Guard.NestedCalls
import VelaWallet.Guard.Panics
import VelaWallet.Codec.Canonical
import VelaWallet.Codec.ClientData
import VelaWallet.Codec.Wire
import VelaWallet.Guard.ConsentSoundness
import VelaWallet.Guard.UndeclaredMembers
import VelaWallet.Send.PostSoundness
import VelaWallet.Pay.RequestSoundness
import VelaWallet.Sign.ReplaySoundness
import VelaWallet.Sign.SettleSoundness
import VelaWallet.Sign.StageSoundness
import VelaWallet.Sign.GrantSoundness
import VelaWallet.Ctap.Conversation
import VelaWallet.Ctap.Framing
import VelaWallet.Signer.Callback
import VelaWallet.Signer.CutSoundness
import VelaWallet.Signer.ConversationSoundness
import VelaWallet.Signer.LaunchSoundness
import VelaWallet.Wallet.SignOutSoundness
import VelaWallet.Dapp.OriginSoundness
import VelaWallet.Dapp.WatchdogSoundness
import VelaWallet.Relay.VerdictSoundness
import VelaWallet.Registry.LookupSoundness
import VelaWallet.Track.ScanSoundness
import VelaWallet.Wallet.SignerSoundness
import VelaWallet.Dapp.PopupSoundness
import VelaWallet.Send.Splits
import VelaWallet.Send.ReceiptSoundness
import VelaWallet.Fee.PriceSoundness
import VelaWallet.Fee.AmountSoundness
import VelaWallet.Rpc.ReloadSoundness
import VelaWallet.Rpc.VerdictSoundness
import VelaWallet.Rpc.HeaderSoundness
import VelaWallet.L10n.Spelling
import VelaWallet.Trust.ProvenMoves
