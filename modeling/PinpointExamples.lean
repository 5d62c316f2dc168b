import PinpointExamples.Lib.Scoped
import PinpointExamples.Lib.Transition
import PinpointExamples.Carrier.Curl
import PinpointExamples.Carrier.Grpc
import PinpointExamples.Carrier.Http
import PinpointExamples.Carrier.Kafka
import PinpointExamples.Carrier.Civetweb
import PinpointExamples.Carrier.LastWrite
import PinpointExamples.Carrier.Agreement
import PinpointExamples.Server.Agent
import PinpointExamples.Server.WrapHandler
import PinpointExamples.Demos.Cpptrace
import PinpointExamples.Demos.Mongo
import PinpointExamples.Demos.CurlWeb
import PinpointExamples.Demos.Redis
import PinpointExamples.Demos.Success
import PinpointExamples.Demos.Mysql
import PinpointExamples.Demos.MysqlSessions
import PinpointExamples.Lib.History
import PinpointExamples.Server.GrpcInterceptor
import PinpointExamples.Server.GrpcSpans
import PinpointExamples.Lib.Json
import PinpointExamples.Lib.JsonObject
import PinpointExamples.Demos.JsonBodies
import PinpointExamples.Carrier.CurlAppend
import PinpointExamples.Carrier.KafkaViews
import PinpointExamples.Demos.CivetwebHandlers
import PinpointExamples.Demos.CurlHost
import PinpointExamples.Demos.EntryPoints
import PinpointExamples.Demos.GrpcClient
import PinpointExamples.Server.GrpcPeer
import PinpointExamples.Demos.KafkaConsumer
import PinpointExamples.Demos.MysqlReport
import PinpointExamples.Nginx.Lifecycle
import PinpointExamples.Scripts.Teardown
import PinpointExamples.Demos.CallStack
import PinpointExamples.Scripts.Options
import PinpointExamples.Lib.Parts
import PinpointExamples.Nginx.HeaderGet
import PinpointExamples.Lib.Int64
import PinpointExamples.Lib.Intervals
import PinpointExamples.Nginx.Upstream
import PinpointExamples.Lib.Commuting
import PinpointExamples.Lib.Duplex
import PinpointExamples.Lib.Propagation
import PinpointExamples.Server.HelloStreams
import PinpointExamples.Demos.Hops
import PinpointExamples.Demos.RunClient
import PinpointExamples.Lib.CallTree
import PinpointExamples.Demos.CallTrees
import PinpointExamples.Lib.Outlines
import PinpointExamples.Lib.Rounds
import PinpointExamples.Scripts.Drivers
import PinpointExamples.Scripts.LoadTest
import PinpointExamples.Demos.CivetwebServer
import PinpointExamples.Demos.DirectTrees
import PinpointExamples.Demos.Handles
import PinpointExamples.Demos.MysqlBodies
import PinpointExamples.Scripts.Containers
