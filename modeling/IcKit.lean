import IcKit.Mock.Basic
import IcKit.Mock.Context
import IcKit.Handler.Basic
import IcKit.Mock.CallRaw
import IcKit.Handler.MethodSpec
import IcKit.Handler.CanisterSpec
import IcKit.Mock.Run
import IcKit.Mock.Effect
import IcKit.Mock.Storage
import IcKit.Mock.Trace
import IcKit.Mock.Certificate
import IcKit.Mock.Conservation
import IcKit.Mock.Handlers
import IcKit.Handler.Builder
import IcKit.Ws.Connections
import IcKit.Ws.Window
