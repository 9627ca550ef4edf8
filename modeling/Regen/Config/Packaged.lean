import Regen.Config.Basic

/-!
# The tables that stand when no configuration file is named

The test data and the test messages of the repository, the well-known description files with
the import paths of their packages, and the benchmark files.
-/

namespace Regen.Config

def packagedPreamble : List String :=
  ["// Copyright 2019 The Go Authors. All rights reserved.",
   "// Use of this source code is governed by a BSD-style",
   "// license that can be found in the LICENSE file.",
   "",
   "// Code generated by generate-protos. DO NOT EDIT.",
   ""]

def packagedOverrides : List (String × String) :=
  [("google/protobuf/field_mask.proto",
    "google.golang.org/protobuf/internal/testprotos/fieldmaskpb"),
   ("google/protobuf/any.proto",
    "google.golang.org/protobuf/types/known/anypb"),
   ("google/protobuf/duration.proto",
    "google.golang.org/protobuf/types/known/durationpb"),
   ("google/protobuf/empty.proto",
    "google.golang.org/protobuf/types/known/emptypb"),
   ("google/protobuf/struct.proto",
    "google.golang.org/protobuf/types/known/structpb"),
   ("google/protobuf/timestamp.proto",
    "google.golang.org/protobuf/types/known/timestamppb"),
   ("google/protobuf/wrappers.proto",
    "google.golang.org/protobuf/types/known/wrapperspb"),
   ("google/protobuf/descriptor.proto",
    "google.golang.org/protobuf/types/descriptorpb"),
   ("google/protobuf/compiler/plugin.proto",
    "google.golang.org/protobuf/types/pluginpb"),
   ("conformance/conformance.proto",
    "google.golang.org/protobuf/internal/testprotos/conformance"),
   ("google/protobuf/test_messages_proto2.proto",
    "google.golang.org/protobuf/internal/testprotos/conformance"),
   ("google/protobuf/test_messages_proto3.proto",
    "google.golang.org/protobuf/internal/testprotos/conformance")]

def packagedJobs : List Job :=
  [⟨"cmd/protoc-gen-go/testdata", false,
    ["cmd/protoc-gen-go/testdata/annotations/annotations.proto"], []⟩,
   ⟨"cmd/protoc-gen-go-grpc/testdata", true, [], []⟩,
   ⟨"internal/testprotos", false, [], ["internal/testprotos/irregular/irregular.proto"]⟩]

def packagedTargets : List Target :=
  [⟨"", "conformance/conformance.proto"⟩,
   ⟨"benchmarks", "benchmarks.proto"⟩,
   ⟨"benchmarks", "datasets/google_message1/proto2/benchmark_message1_proto2.proto"⟩,
   ⟨"benchmarks", "datasets/google_message1/proto3/benchmark_message1_proto3.proto"⟩,
   ⟨"benchmarks", "datasets/google_message2/benchmark_message2.proto"⟩,
   ⟨"benchmarks", "datasets/google_message3/benchmark_message3.proto"⟩,
   ⟨"benchmarks", "datasets/google_message3/benchmark_message3_1.proto"⟩,
   ⟨"benchmarks", "datasets/google_message3/benchmark_message3_2.proto"⟩,
   ⟨"benchmarks", "datasets/google_message3/benchmark_message3_3.proto"⟩,
   ⟨"benchmarks", "datasets/google_message3/benchmark_message3_4.proto"⟩,
   ⟨"benchmarks", "datasets/google_message3/benchmark_message3_5.proto"⟩,
   ⟨"benchmarks", "datasets/google_message3/benchmark_message3_6.proto"⟩,
   ⟨"benchmarks", "datasets/google_message3/benchmark_message3_7.proto"⟩,
   ⟨"benchmarks", "datasets/google_message3/benchmark_message3_8.proto"⟩,
   ⟨"benchmarks", "datasets/google_message4/benchmark_message4.proto"⟩,
   ⟨"benchmarks", "datasets/google_message4/benchmark_message4_1.proto"⟩,
   ⟨"benchmarks", "datasets/google_message4/benchmark_message4_2.proto"⟩,
   ⟨"benchmarks", "datasets/google_message4/benchmark_message4_3.proto"⟩,
   ⟨"src", "google/protobuf/any.proto"⟩,
   ⟨"src", "google/protobuf/compiler/plugin.proto"⟩,
   ⟨"src", "google/protobuf/descriptor.proto"⟩,
   ⟨"src", "google/protobuf/duration.proto"⟩,
   ⟨"src", "google/protobuf/empty.proto"⟩,
   ⟨"src", "google/protobuf/field_mask.proto"⟩,
   ⟨"src", "google/protobuf/struct.proto"⟩,
   ⟨"src", "google/protobuf/test_messages_proto2.proto"⟩,
   ⟨"src", "google/protobuf/test_messages_proto3.proto"⟩,
   ⟨"src", "google/protobuf/timestamp.proto"⟩,
   ⟨"src", "google/protobuf/wrappers.proto"⟩]

def packaged : Config :=
  { default with
    preamble := packagedPreamble
    overrides := ⟨packagedOverrides⟩
    jobs := packagedJobs
    targets := packagedTargets
    relocations :=
      [⟨"google.golang.org/genproto/protobuf/field_mask/field_mask.pb.go",
        "google.golang.org/protobuf/internal/testprotos/fieldmaskpb/field_mask.pb.go", true⟩] }

end Regen.Config
